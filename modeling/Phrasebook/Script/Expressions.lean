import Phrasebook.Script.Callee

/-!
Expressions with operators in front of and behind them, and expressions as a whole.
-/
namespace Phrasebook.Script

variable {src : Source}

namespace Parser

/-- Whether `await` stands alone here, as a name. -/
def awaitsNothing : Parser src Bool := do
  return (← atStatementEnd) ∨ (← isMarkIn [")", "]", ","])

/-- `await` and its operand. Where it cannot wait it is a harmless fault. -/
def awaitRest (r : Rules src) (word : WordPlace src "await") : Parser src (Outline src) := do
  if ← isMark "*" then unexpected
  let scope ← read
  if !scope.inAsync ∧ (← awaitsNothing) then
    report word.start
    return .ofWord word
  if scope.inFunction ∧ !scope.inAsync then report word.start
  if scope.inParameters ∧ !scope.inFunction then report word.start
  return .node .await word.start [← r.unary]

def typeAssertion (r : Rules src) : Parser src (Outline src) := do
  let start ← place
  let isConst := (← peek).isKeyword "const"
  if isConst then
    advance
    advance
    expectMark ">"
    return .node (.cast .constant) start [← r.unary]
  let type ← typeBehind r
  expectMark ">"
  return .node (.cast .assertion) start [← r.unary, type]

def operand (r : Rules src) : Parser src (Outline src) := do
  let start ← place
  tryCatch r.unary fun fault => do
    note fault.position
    return .invalidAt (start - 1)

def prefixed (r : Rules src) : Parser src (Outline src) := do
  let start ← place
  advance
  let target ← r.unary
  checkTarget target false
  return .node .update start [target]

/-- An expression with another mark or a word in front. A variable should not be deleted. -/
def unaryOperation (r : Rules src) : Parser src (Outline src) := do
  let start ← place
  let isDelete ← isWord "delete"
  advance
  let target ← operand r
  if isDelete ∧ target.isName then report target.start
  return .node .unary start [target]

def postfixed (r : Rules src) : Parser src (Outline src) := do
  let target ← r.callee
  if target.isArrow ∨ (← onNewLine) then return target
  unless (← isMark "++") ∨ (← isMark "--") do return target
  checkTarget target false
  advance
  return .node .update target.start [target]

def unary (r : Rules src) : Parser src (Outline src) := do
  if let some word ← takeWord? "await" then return ← awaitRest r word
  let scope ← read
  match ← token with
  | .mark "<" => if scope.typed ∧ !scope.elements then typeAssertion r else postfixed r
  | .mark "++" => prefixed r
  | .mark "--" => prefixed r
  | .mark text => if text ∈ ["+", "-", "~", "!"] then unaryOperation r else postfixed r
  | .word text false =>
    if text ∈ ["delete", "typeof", "void"] then unaryOperation r else postfixed r
  | _ => postfixed r

/-- Whether a `yield` has an operand. -/
def yieldsValue : Parser src Bool := do
  if ← atStatementEnd then return false
  if ← isMarkIn ["<", "*", "/", "/="] then return true
  return startsExpression (← current)

def yieldExpression (r : Rules src) : Parser src (Outline src) := do
  let start ← place
  advance
  let scope ← read
  if scope.inParameters ∧ !scope.inFunction then refuse start
  unless ← yieldsValue do return .node .group start []
  discard <| eatMark "*"
  return .node .group start [← r.assignment]

/-- Whether an operation cannot be the test of a conditional expression or the target of an
assignment without parentheses. -/
def endsAssignment (outline : Outline src) : Bool :=
  match outline.form with
  | .arrow | .conditional | .binary | .sum | .logical _ | .unary | .update => true
  | _ => false

/-- An operation with the branches behind it, if it is the test of a conditional expression. -/
def conditional (r : Rules src) : Parser src (Outline src) := do
  let test ← binary r
  if test.isArrow ∨ !(← isMark "?") then return test
  conditionalRest r test

def startsArrow : Parser src Bool := do
  match ← token with
  | .word text escaped =>
    return escaped || text = "yield" || text ∉ keywords ++ ["let", "await"]
  | .mark "(" => return true
  | _ => return false

/-- An assignment without type parameters in front. Characters that are no token are a fault of
their own. -/
def plainAssignment (r : Rules src) : Parser src (Outline src) := do
  if (← isWord "yield") ∧ (← read).inGenerator then return ← yieldExpression r
  if let .faulty position := ← token then
    advance
    fail position
  let start ← place
  markArrowStart (if ← startsArrow then some start else none)
  let target ← conditional r
  if endsAssignment target then return target
  assignmentRest r target

def genericArrow? (r : Rules src) : Parser src (Option (Outline src)) := do
  unless (← read).typed do return none
  unless ← isMarkBefore "<" Lexeme.isWord do return none
  attempt <| apartFromColon do
    let typeParameters ← arrowTypeParameters r
    match ← plainAssignment r with
    | .node .arrow start [parameters, body, _, result] _ =>
      return some (.node .arrow start [parameters, body, typeParameters, result])
    | _ => unexpected

def assignment (r : Rules src) : Parser src (Outline src) := do
  if let some made ← genericArrow? r then return made
  plainAssignment r

def expression (r : Rules src) : Parser src (Outline src) := do
  let first ← r.assignment
  unless ← isMark "," do return first
  let more ← collect do
    unless ← eatMark "," do return none
    return some (← r.assignment)
  return .node .group first.start (first :: more)

end Parser
end Phrasebook.Script
