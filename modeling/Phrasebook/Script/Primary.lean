import Phrasebook.Script.Classes
import Phrasebook.Script.Parentheses

/-!
Primary expressions.
-/
namespace Phrasebook.Script

variable {src : Source}

/-- The position behind the closing slash of a regular expression, read from behind its first one.
-/
def Source.closeRegex? (src : Source) : (fuel : Nat) → Nat → (inClass : Bool) → Option Nat
  | 0, _, _ => none
  | fuel + 1, i, inClass => do
    let c ← src[i]?
    if Text.isLineBreak c then none
    else if c = '\\' then
      let escaped ← src[i + 1]?
      if Text.isLineBreak escaped then none else src.closeRegex? fuel (i + 2) inClass
    else if c = '[' then src.closeRegex? fuel (i + 1) true
    else if c = ']' then src.closeRegex? fuel (i + 1) false
    else if c = '/' ∧ !inClass then some (i + 1)
    else src.closeRegex? fuel (i + 1) inClass

def Source.readFlags (src : Source) (i : Nat) : NameRun :=
  let none : NameRun := ⟨[], i, false, [], none⟩
  if src[i]?.any Text.isIdentifierStart then src.readNameFrom (src.size + 1 - i) none else none

namespace Parser

/-- Notes a fault if there is an unknown flag, and one if a flag stands there twice. -/
def checkFlags (flags : List Char) (start : Nat) : Parser src Unit := do
  unless flags.all (· ∈ "gimuysdv".toList) do report start
  unless flags.eraseDups.length = flags.length do report start

def regex : Parser src (Outline src) := do
  let lexeme ← current
  match src.closeRegex? src.size (lexeme.first + 1) false with
  | none => fail lexeme.start
  | some stop =>
    let flags := src.readFlags stop
    flags.bad.forM fun position => fail position
    moveTo flags.stop
    checkFlags flags.name lexeme.start
    return .node .literal lexeme.start []

def arrayLiteral (r : Rules src) : Parser src (Outline src) := apartFromColon do
  let start ← place
  expectMark "["
  let (parts, comma) ← iterate (fun (parts, comma) => do
    if ← isMark "]" then return none
    if ← eatMark "," then return some (.node .hole 0 [] :: parts, comma)
    let part ← allowingIn (argument r)
    if ← isMark "]" then return some (part :: parts, comma)
    expectMark ","
    let place := (← last).start
    return some (part :: parts, if ← isMark "]" then some place else comma)) ([], none)
  expectMark "]"
  return .node (.array comma) start parts.reverse

def asyncGenericArrow? (r : Rules src) : Parser src (Option (Outline src)) := attempt do
  let start ← place
  advance
  let typeParameters ← arrowTypeParameters r
  expectMark "("
  let parameters ← functionParameters r
  expectMark ")"
  let result ← optionalReturnType r
  expectMark "=>"
  let patterns := parameters.map (·.pattern)
  return some (← arrowRest r true start patterns [typeParameters] result)

/-- What starts with `async`, unless that is a name: a function, an arrow function with type
parameters, or a list of arguments or parameters. -/
def asyncStart? (r : Rules src) : Parser src (Option (Outline src)) := do
  let start ← place
  let next ← peek
  if next.isKeyword "function" ∧ !next.newline then
    advance
    return some (← functionExpression r true start)
  unless ← mayStartArrow do return none
  if (← read).typed ∧ next.isMark "<" then
    if let some made ← asyncGenericArrow? r then return some made
  unless next.isMark "(" ∧ !next.newline do return none
  return some (← parenthesized r true (← takeWord? "async"))

/-- What stands behind the name `async` and in front of another name: an asynchronous arrow function
with that parameter, or nothing more. In the head of a loop, `of` is no such parameter; there `async`
should not stand, except behind `for await`. -/
def behindAsync (r : Rules src) (name : Outline src) : Parser src (Outline src) := do
  let scope ← read
  if scope.inLoopHead then
    if ← isWordBefore "of" (!·.isMark "=>") then
      unless scope.inAwaitHead do report (← last).start
      return name
  let parameter ← bindingName false
  if scope.typed ∧ parameter.name? = some "as" ∧ !(← isMark "=>") then
    let type ← inTypes r.anyType
    return .node (.cast .asType) name.start [name, type]
  expectMark "=>"
  arrowRest r true name.start [parameter] [] []

/-- A name, or an arrow function with a single bare parameter. -/
def nameExpression (r : Rules src) : Parser src (Outline src) := do
  let mayBeArrow ← mayStartArrow
  let name ← identifier
  unless mayBeArrow do return name
  if name.name? = some "async" ∧ (← atReference) then return ← behindAsync r name
  if (← isMark "=>") ∧ !(← onNewLine) then
    advance
    if name.name?.any isFixedName then report name.start
    return ← arrowRest r false name.start [name] [] []
  return name

/-- Whether a name stands here. Where types are written, even most reserved words are tried as one.
-/
def atName : Parser src Bool := do
  if ← atReference then return true
  match ← token with
  | .word text escaped => return ((← read).typed && text ≠ "enum") || (text = "let" && !escaped)
  | _ => return false

/-- A class with its decorators, a name, or a private name. Decorators of anything else are dropped.
-/
def namedExpression (r : Rules src) : Parser src (Outline src) := do
  let start ← place
  let decorators ← decorators r
  if ← isWord "class" then
    return ← classRest r decorators false false start
  if ← atName then return ← nameExpression r
  let start ← place
  if ← eatMark "#" then
    discard anyWord
    return .node .group start []
  noteToken
  throw ⟨"TS1109", start⟩

def literal (made : Nat → Outline src) : Parser src (Outline src) := do
  let start ← place
  advance
  return made start

def wordExpression (r : Rules src) (word : String) : Parser src (Outline src) := do
  let start ← place
  match word with
  | "this" => literal (.node .group · [])
  | "null" => literal (.node .literal · [])
  | "true" => literal (.node .literal · [])
  | "false" => literal (.node .literal · [])
  | "function" => functionExpression r false start
  | "async" =>
    match ← asyncStart? r with
    | some made => return made
    | none => namedExpression r
  | _ => namedExpression r

def primary (r : Rules src) : Parser src (Outline src) := do
  match ← token with
  | .word text false => wordExpression r text
  | .string value => literal (.node (.text value) · [])
  | .number => literal (.node .literal · [])
  | .bigint => literal (.node .literal · [])
  | .mark "[" => arrayLiteral r
  | .mark "\x7b" => objectLiteral r
  | .mark "\x60" => valueTemplate r false
  | .mark "/" => regex
  | .mark "/=" => regex
  | .mark "(" => parenthesized r (← mayStartArrow) none
  | _ => namedExpression r

end Parser
end Phrasebook.Script
