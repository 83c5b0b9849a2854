import Phrasebook.Script.Parser

/-!
Names in scripts.
-/
namespace Phrasebook.Script

variable {src : Source}

def Lexeme.isReference (lexeme : Lexeme src) (strict : Bool) : Bool :=
  match lexeme.token with
  | .word text escaped => escaped || !isReserved strict text
  | _ => false

namespace Parser

def atReference : Parser src Bool := do
  return (← current).isReference (← read).strict

def peekIsReference : Parser src Bool := do
  return (← peek).isReference (← read).strict

def anyWord : Parser src (Outline src) := do
  let lexeme ← current
  match h : lexeme.token with
  | .word text _ =>
    advance
    return .node (.name text) lexeme.start [] (lexeme.opens_of_word h)
  | _ => unexpected

/-- A name that a declaration or an expression uses. Some reserved words are harmless faults. -/
def identifier : Parser src (Outline src) := do
  let lexeme ← current
  match h : lexeme.token with
  | .word text escaped =>
    let scope ← read
    let found : Outline src := .node (.name text) lexeme.start [] (lexeme.opens_of_word h)
    unless escaped do
      if text = "enum" ∨ text ∈ strictWords then
        advance
        report lexeme.start
        return found
      let allowed := (text = "await" ∧ scope.ambient) ∨ (text = "this" ∧ scope.typed)
      if (text = "await" ∨ text ∈ keywords) ∧ !allowed then unexpected
    if text = "arguments" ∧ scope.inField then report lexeme.start
    advance
    return found
  | _ => unexpected

def bindingName (noLet : Bool) : Parser src (Outline src) := do
  if noLet ∧ (← isWord "let") then unexpected
  let found ← identifier
  let scope ← read
  if found.name?.any isFixedName then report found.start
  if scope.inAsync ∧ found.name? = some "await" then report found.start
  if scope.inGenerator ∧ found.name? = some "yield" then report found.start
  return found

def bindingName? (noLet : Bool) : Parser src (Option (Outline src)) := do
  if (← read).typed then
    if let some word ← wordPlace? "this" then return some (.ofWord word)
  if ← atReference then return some (← bindingName noLet)
  return none

def privateName : Parser src (Outline src) := do
  let mark ← current
  expectMark "#"
  unless (← current).start = mark.stop do refuse mark.start
  anyWord

def memberName : Parser src Unit := do
  if ← isMark "#" then discard privateName else discard anyWord

end Parser
end Phrasebook.Script
