import Phrasebook.Script.Template

/-!
Types where they stand behind names, parameters and expressions.
-/
namespace Phrasebook.Script.Parser

variable {src : Source}

def typeBehind (r : Rules src) : Parser src (Outline src) := do
  inTypes do
    advance
    r.anyType

/-- The items of a list of types up to where `atClose` holds. A comma may follow the last one. -/
def typeList {α : Type} (atClose : Parser src Bool) (item : Parser src α) :
    Parser src (List α) := do
  let (_, items) ← iterate (fun (done, items) => do
      if done ∨ (← atClose) then return none
      let found ← item
      if ← eatMark "," then return some (false, found :: items)
      if ← atClose then return some (true, found :: items)
      fail (← place)) (false, [])
  return items.reverse

/-- `<A, B>` behind a name. What follows the `>` is no longer read as a part of a type. -/
def typeArguments (r : Rules src) : Parser src (Outline src) := do
  let parts ← inTypes do
    if ← isMark "<<" then rescan
    expectMark "<"
    typeList (isMark ">") r.anyType
  expectMark ">"
  return .group parts

structure Variance where
  isIn : Bool
  isOut : Bool

/-- Whether a token behind a word makes it a modifier. -/
def followsModifier (lexeme : Lexeme src) : Bool :=
  !lexeme.newline &&
    match lexeme.token with
    | .word _ _ | .string _ | .number | .bigint => true
    | .mark text => text ∈ ["[", "\x7b", "*", "...", "#"]
    | _ => false

def modifier? (words : List String) : Parser src (Option String) := do
  unless (← read).typed do return none
  match ← token with
  | .word text false =>
    unless text ∈ words do return none
    attempt do
      advance
      return if followsModifier (← current) then some text else none
  | _ => return none

/-- Whether a modifier of a type parameter is a fault. Those of a class or an interface may be `in`
and `out`, those of a class or a function `const`. -/
def varianceFault (permitsInOut permitsConst : Bool) (seen : Variance) (word : String) : Bool :=
  match word with
  | "const" => !permitsConst
  | "in" => !permitsInOut || seen.isIn || seen.isOut
  | "out" => !permitsInOut || seen.isOut
  | _ => true

def parameterModifiers (permitsInOut permitsConst : Bool) : Parser src Unit := do
  let words :=
    ["public", "private", "protected", "readonly", "abstract", "const", "override", "in", "out"]
  discard <| iterate (fun seen => do
    match ← modifier? words with
    | none => return none
    | some word =>
      if varianceFault permitsInOut permitsConst seen word then report (← last).start
      return some (⟨seen.isIn || word = "in", seen.isOut || word = "out"⟩ : Variance))
    ⟨false, false⟩

structure TypeParameter (src : Source) where
  outline : Outline src
  isBound : Bool

/-- A name in a list of type parameters, with its modifiers, bound and default. -/
def typeParameter (r : Rules src) (permitsInOut permitsConst : Bool) :
    Parser src (TypeParameter src) := do
  let start ← place
  parameterModifiers permitsInOut permitsConst
  let _ ← anyWord
  let bound ← if ← isWord "extends" then pure [← typeBehind r] else pure []
  let default ← if ← isMark "=" then pure [← typeBehind r] else pure []
  return ⟨.node .group start (bound ++ default), !bound.isEmpty⟩

/-- `<A, B>` in front of parameters, up to the closing mark, which is not read. -/
def openTypeParameters (r : Rules src) (permitsInOut permitsConst : Bool) :
    Parser src (List (TypeParameter src)) := do
  unless ← eatMark "<" do unexpected
  let found ← typeList (isMark ">") (typeParameter r permitsInOut permitsConst)
  unless ← isMark ">" do fail (← place)
  return found

/-- `<A, B>` in front of parameters. The parts are the single parameters. -/
def typeParameters (r : Rules src) (permitsInOut permitsConst : Bool) :
    Parser src (Outline src) := do
  inTypes do
    let found ← openTypeParameters r permitsInOut permitsConst
    expectMark ">"
    return .group (found.map (·.outline))

/-- Whether `<A>` could as well be the tag of an element: it holds nothing but a name that is not
bound. The cursor is on its closing mark. -/
def looksLikeTag (found : List (TypeParameter src)) : Parser src Bool := do
  let before ← last
  let isTight := before.stop = (← current).first && !before.isMark ","
  return (← read).elements && isTight &&
    match found with
    | [parameter] => !parameter.isBound
    | _ => false

/-- Type parameters in front of an arrow function. They are none if they look like a tag. -/
def arrowTypeParameters (r : Rules src) : Parser src (Outline src) := do
  inTypes do
    let found ← openTypeParameters r false true
    if ← looksLikeTag found then unexpected
    expectMark ">"
    return .group (found.map (·.outline))

def optionalTypeParameters (r : Rules src) (permitsInOut permitsConst : Bool) :
    Parser src (List (Outline src)) := do
  unless (← read).typed ∧ (← isMark "<") do return []
  return [← typeParameters r permitsInOut permitsConst]

/-- `: T` behind a name or a pattern. -/
def optionalType (r : Rules src) : Parser src (List (Outline src)) := do
  unless (← read).typed ∧ (← isMark ":") do return []
  return [← typeBehind r]

/-- A return type behind its mark, which may also be a predicate on a parameter. -/
def returnType (r : Rules src) : Parser src (Outline src) := inTypes do
  advance
  let strict := (← read).strict
  let asserts ← isWordBefore "asserts" (·.isReference strict)
  if asserts then advance
  if ← atReference then
    let next ← peek
    if next.isKeyword "is" ∧ !next.newline then
      advance
      advance
      return .group [← r.anyType]
  if asserts then anyWord
  else return .group [← r.anyType]

def optionalReturnType (r : Rules src) : Parser src (List (Outline src)) := do
  unless (← read).typed ∧ (← isMark ":") do return []
  return [← returnType r]

/-- Whether what stands in front of a token was no list of type arguments, or one of a call. -/
def refusesTypeArguments (lexeme : Lexeme src) : Bool :=
  match lexeme.token with
  | .mark text => text ∈ ["<", ">", "=", ">>", ">=", "+", "-", "(", "\x60"]
  | _ => false

/-- The binary operators that are marks, with their ranks. Those of higher rank bind tighter. -/
def operatorRank? (text : String) : Option Nat :=
  match text with
  | "??" => some 1
  | "||" => some 1
  | "&&" => some 2
  | "|" => some 3
  | "^" => some 4
  | "&" => some 5
  | "==" => some 6
  | "!=" => some 6
  | "===" => some 6
  | "!==" => some 6
  | "<" => some 7
  | "<=" => some 7
  | ">" => some 7
  | ">=" => some 7
  | "<<" => some 8
  | ">>" => some 8
  | ">>>" => some 8
  | "+" => some 9
  | "-" => some 9
  | "*" => some 10
  | "/" => some 10
  | "%" => some 10
  | "**" => some 11
  | _ => none

def startsExpression (lexeme : Lexeme src) : Bool :=
  match lexeme.token with
  | .word text escaped =>
    escaped || !isReserved true text ||
      text ∈ ["this", "super", "null", "true", "false", "function", "class", "new", "delete",
        "typeof", "void", "await", "yield", "import"]
  | .string _ => true
  | .number => true
  | .bigint => true
  | .mark text =>
    text ∈ ["(", "[", "\x7b", "\x60", "+", "-", "~", "!", "++", "--", "<", "/", "/=", "#"]
  | _ => false

/-- Type arguments behind an expression that is no call: none where `<` compares. -/
def instanceArguments? (r : Rules src) : Parser src (Option (Outline src)) := attempt do
  let found ← typeArguments r
  let lexeme ← current
  if refusesTypeArguments lexeme then return none
  let joins : Bool :=
    match lexeme.token with
    | .mark text => (operatorRank? text).isSome
    | _ => false
  if lexeme.newline ∨ joins ∨ !startsExpression lexeme then return some found
  return none

end Phrasebook.Script.Parser
