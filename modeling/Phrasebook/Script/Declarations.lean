import Phrasebook.Script.Expressions

/-!
Declarations of variables, and those that only scripts with types have.
-/
namespace Phrasebook.Script

variable {src : Source}

inductive VariableKind where
  | plain
  | lexical
  | constant
  | resource
  deriving DecidableEq, Repr

/-- A declared variable: its name or pattern with the type behind it, and its value. -/
structure Declarator (src : Source) where
  target : Outline src
  types : List (Outline src)
  value : List (Outline src)

def Declarator.outline (declarator : Declarator src) : Outline src :=
  .group (declarator.target.withParts declarator.types :: declarator.value)

def Lexeme.startsDeclarator (lexeme : Lexeme src) : Bool :=
  match lexeme.token with
  | .word text escaped => escaped || text ∉ keywords
  | .mark text => text = "[" || text = "\x7b"
  | _ => false

namespace Parser

/-- Whether a variable may lack its value. A constant without one is a harmless fault, a pattern
without one is none, except in ambient declarations. In the head of a loop a constant may lack it. -/
def checkNoValue (kind : VariableKind) (inLoop : Bool) (target : Outline src) (start : Nat) :
    Parser src Unit := do
  unless (← read).ambient do
    if kind = .constant ∧ !inLoop then report start
    else unless target.isName do refuse start

def declarator (r : Rules src) (kind : VariableKind) (inLoop : Bool) :
    Parser src (Declarator src) := do
  let start ← place
  let target ← r.binding (kind = .lexical ∨ kind = .constant)
  if (← read).typed ∧ target.isName then discard <| eatMark "!"
  let types ← optionalType r
  if inLoop ∧ ((← isWord "in") ∨ (← isWord "of")) then return ⟨target, types, []⟩
  if ← eatMark "=" then return ⟨target, types, [← r.assignment]⟩
  checkNoValue kind inLoop target start
  return ⟨target, types, []⟩

/-- Declared variables behind their word. A semicolon in the place of one is a harmless fault. -/
def declarators (r : Rules src) (kind : VariableKind) (inLoop : Bool) :
    Parser src (List (Declarator src)) := do
  let one := declarator r kind inLoop
  let one := if kind = .plain ∧ inLoop then one else allowingIn one
  let (_, found) ← iterate (fun (more, found) => do
    unless more do return none
    if ← isMark ";" then
      report (← last).start
      return some (false, found)
    let next ← one
    return some (← eatMark ",", next :: found)) (true, [])
  return found.reverse

def variableKind? : Parser src (Option VariableKind) := do
  match ← token with
  | .word "var" false => return some .plain
  | .word "const" false => return some .constant
  | .word "let" false => return if (← peek).startsDeclarator then some .lexical else none
  | _ => return none

/-- Passes over what keeps a declaration from ending, as a harmless fault: an expression if there is
one, and all tokens up to the end of a statement. -/
def skipToSemicolon (r : Rules src) : Parser src Unit := do
  report (← place)
  tryCatch (discard r.expression) fun _ => return
  discard <| iterate (fun () => do
    if (← atEnd) ∨ (← eatSemicolon) then return none
    advance
    if (← token) matches .faulty _ then return none
    return some ()) ()

def variableStatement (r : Rules src) (kind : VariableKind) : Parser src (Outline src) := do
  let start ← place
  advance
  let found ← declarators r kind false
  unless ← eatSemicolon do skipToSemicolon r
  return .node .group start (found.map (·.outline))

/-- `using` with its variables, which are names with values. Scripts without types do not have it, as
a harmless fault. -/
def usingStatement? (r : Rules src) (start : Nat) : Parser src (Option (Outline src)) := do
  let next ← peek
  unless !next.newline && next.isReference (← read).strict do return none
  advance
  let (_, found) ← iterate (fun (more, found) => do
    unless more do return none
    if (← isMark ";") ∨ (← atEnd) then
      report (← last).start
      return some (false, found)
    let next ← declarator r .resource false
    return some (← eatMark ",", next :: found)) (true, [])
  unless (← read).typed do report start
  found.reverse.forM fun declarator => do
    unless declarator.target.isName do report start
    if declarator.value.isEmpty then report start
  semicolon
  return some (.node .group start (found.reverse.map (·.outline)))

/-- Passes over words that do not belong in the head of an interface, up to its body. -/
def skipToBody : Parser src Unit := do
  report (← place)
  discard <| iterate (fun () => do
    if (← atEnd) ∨ (← isMark "\x7b") then return none
    advance
    return some ()) ()

def interfaceRest (r : Rules src) (start : Nat) : Parser src (Outline src) := do
  let name ← anyWord
  if name.name?.any (· ∈ builtinTypes) then report name.start
  let typeParameters ← optionalTypeParameters r true false
  let extended ← if ← eatWord "extends" then heritage r else pure []
  if ← isWord "extends" then skipToBody
  if ← isWord "implements" then skipToBody
  let body ← inTypes (objectType r)
  return .node .group start (typeParameters ++ extended ++ [body])

def aliasRest (r : Rules src) (start : Nat) : Parser src (Outline src) := do
  discard anyWord
  let typeParameters ← optionalTypeParameters r true false
  unless ← isMark "=" do fail (← place)
  let type ← typeBehind r
  semicolon
  return .node .group start (typeParameters ++ [type])

/-- The key of a member of an enumeration. Nothing is left of a computed one, which is a harmless
fault, like a number. -/
def enumKey (r : Rules src) : Parser src Unit := do
  let start ← place
  match ← token with
  | .string _ => advance
  | .number =>
    advance
    report start
  | .mark "[" =>
    advance
    discard r.expression
    report start
    expectMark "]"
  | _ => discard anyWord

/-- Takes a comma to stand in the place of the current token and of the one behind it. -/
def supposeComma : Parser src Unit := do
  let start ← place
  advance
  modify fun c =>
    { c with lexeme := { c.lexeme with token := .mark ",", start, opens := nofun }, next := none }
  report start

def enumMember (r : Rules src) : Parser src (List (Outline src)) := do
  enumKey r
  if ← eatMark "=" then return [← r.assignment]
  unless (← isMark ",") ∨ (← isMark "\x7d") do supposeComma
  return []

/-- An enumeration from its name on. A comma that is missing behind a value is a harmless fault. -/
def enumRest (r : Rules src) (start : Nat) : Parser src (Outline src) := do
  discard anyWord
  expectMark "\x7b"
  let members ← collect do
    if ← isMark "\x7d" then return none
    let member ← enumMember r
    unless (← eatMark ",") ∨ (← isMark "\x7d") do report (← place)
    return some member
  expectMark "\x7d"
  return .node .group start members.flatten

def namespaceBody (r : Rules src) : Parser src (Outline src) := do
  let start ← place
  expectMark "\x7b"
  let found ← collect do
    if (← isMark "\x7d") ∨ (← atEnd) then return none
    return some (← r.item)
  if ← atEnd then report (← place) else advance
  return .node .group start found

def namespaceRest (r : Rules src) : Parser src (Outline src) := do
  discard anyWord
  if ← eatMark "." then r.namespaceRest else namespaceBody r

/-- A module that is declared for others, from its name on. It may lack its body. -/
def ambientModule (r : Rules src) : Parser src (Outline src) := do
  let isString := (← token) matches .string _
  unless isString ∨ (← isWord "global") do unexpected
  advance
  if ← isMark "\x7b" then return ← namespaceBody r
  semicolon
  return .empty

/-- A declaration that only scripts with types have, from behind its word on. `must` tells that there
is nothing else it can be. -/
def typedDeclaration? (r : Rules src) (word : String) (decorators : List (Outline src))
    (start : Nat) (must : Bool) : Parser src (Option (Outline src)) := do
  let named ← atReference
  let sameLine := !(← onNewLine)
  match word with
  | "abstract" =>
    unless must ∨ ((← isWord "class") ∧ sameLine) do return none
    return some (← classRest r decorators true true start)
  | "enum" => if must ∨ named then return some (← enumRest r start) else return none
  | "interface" => if must ∨ named then return some (← interfaceRest r start) else return none
  | "module" =>
    unless must ∨ sameLine do return none
    if (← token) matches .string _ then return some (← ambientModule r)
    if must ∨ named then return some (← namespaceRest r) else return none
  | "namespace" => if must ∨ named then return some (← namespaceRest r) else return none
  | "type" =>
    unless must ∨ (named ∧ sameLine) do return none
    return some (← aliasRest r start)
  | _ => return none

def wordedDeclaration? (r : Rules src) (decorators : List (Outline src)) (start : Nat) :
    Parser src (Option (Outline src)) := do
  match ← token with
  | .word text _ =>
    unless text ∈ ["abstract", "enum", "interface", "module", "namespace", "type"] do return none
    if text = "module" ∧ (← onNewLine) then return none
    advance
    typedDeclaration? r text decorators start true
  | _ => return none

def constEnum? (r : Rules src) : Parser src (Option (Outline src)) := do
  unless ← isWordBefore "const" (·.isKeyword "enum") do return none
  let start ← place
  advance
  advance
  return some (← enumRest r start)

def ambientDeclaration? (r : Rules src) (decorators : List (Outline src)) (start : Nat) :
    Parser src (Option (Outline src)) := do
  if (← read).ambient then report start
  withReader ({ · with ambient := true }) do
    if ← isWord "function" then
      return some (← functionDeclaration r false true decorators start)
    if ← isWord "class" then return some (← classRest r decorators false true start)
    if let some found ← constEnum? r then return some found
    match ← token with
    | .word "var" false => return some (← variableStatement r .plain)
    | .word "const" false => return some (← variableStatement r .constant)
    | .word "let" false => return some (← variableStatement r .lexical)
    | .word "global" false => return some (← ambientModule r)
    | _ => wordedDeclaration? r decorators start

end Parser
end Phrasebook.Script
