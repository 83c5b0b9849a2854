import Phrasebook.Script.Bindings

/-!
Operators between operands, and assignments.
-/
namespace Phrasebook.Script.Parser

variable {src : Source}

def relationRank : Nat := 7

def currentRank? : Parser src (Option Nat) := do
  match ← token with
  | .word "instanceof" false => return some relationRank
  | .word "in" false => return if (← read).allowsIn then some relationRank else none
  | .mark text => return operatorRank? text
  | _ => return none

/-- The type behind `as` or `satisfies`. A mark behind it is no longer read as a part of a type. -/
def castType (r : Rules src) : Parser src (Outline src) := do
  let type ← typeBehind r
  if !(← read).inType ∧ (← isMarkIn ["<", ">"]) then rescan
  return type

def cast? (r : Rules src) (target : Outline src) : Parser src (Option (Outline src)) := do
  unless (← read).typed ∧ !(← onNewLine) do return none
  let cast (kind : CastKind) (types : List (Outline src)) : Outline src :=
    .node (.cast kind) target.start (target :: types)
  if ← isWord "as" then
    if (← peek).isKeyword "const" then
      advance
      advance
      return some (cast .constant [])
    return some (cast .asType [← castType r])
  if ← isWord "satisfies" then return some (cast .satisfies [← castType r])
  return none

def operationForm (operator : Lexeme src) : Form :=
  match operator.token with
  | .mark "+" => .sum
  | .mark "&&" => .logical false
  | .mark "||" => .logical false
  | .mark "??" => .logical true
  | _ => .binary

theorem opens_operationForm (operator : Lexeme src) (position : Nat) :
    (operationForm operator).Opens src position := by
  rw [operationForm]
  split <;> trivial

/-- Notes a fault for an operand of `??` that is another logical operation. -/
def checkLogicalOperand (operand : Outline src) : Parser src Unit := do
  if operand.form = .logical false then report operand.start

/-- Notes a fault for `??` as the first operand of another logical operation. -/
def checkMixed : Outline src → Parser src Unit
  | .node (.logical false) start (left :: _) _ => do
    if left.form = .logical true then report start
  | _ => return

def operationWith (r : Rules src) (left : Outline src) (rank : Nat) : Parser src (Outline src) := do
  let operator ← current
  let isPower := operator.isMark "**"
  advance
  if isPower ∧ (left.form = .unary ∨ left.form = .await) then unexpected
  let right ← r.operation (← r.unary) (if isPower then rank - 1 else rank)
  let form := operationForm operator
  if form = .logical true then
    checkLogicalOperand left
    checkLogicalOperand right
  return .node form left.start [left, right] (opens_operationForm operator _)

/-- The next operation behind a first operand, and whether there is one. Casts bind like relations.
-/
def operationStep (r : Rules src) (least : Nat) (left : Outline src) :
    Parser src (Outline src × Bool) := do
  let left ← iterate (fun left => do
    if relationRank ≤ least then return none
    cast? r left) left
  match ← currentRank? with
  | none => return (left, false)
  | some rank =>
    if rank ≤ least then return (left, false)
    return (← operationWith r left rank, true)

def operation (r : Rules src) (left : Outline src) (least : Nat) : Parser src (Outline src) := do
  let (outline, _) ← iterate (fun (left, more) => do
    unless more do return none
    let (next, more) ← operationStep r least left
    checkMixed next
    return some (next, more)) (left, true)
  return outline

/-- Operands joined by operators. A first operand that cannot be read is a harmless fault in front of
an operator. -/
def binary (r : Rules src) : Parser src (Outline src) := do
  let left ← tryCatch r.unary fun fault => do
    unless (← currentRank?).isSome do throw fault
    report (← place)
    return .invalidAt fault.position
  if left.isArrow then return left
  r.operation left 0

def assigningMarks : List String :=
  ["**=", "<<=", "&&=", "||=", "??=", "+=", "-=", "*=", "/=", "%=", "&=", "|=", "^=", ">>=", ">>>="]

/-- What `=` assigns to. -/
def assignedPattern (target : Outline src) : Parser src (Outline src) := do
  let pattern ← asPattern ⟨false, false⟩ target
  unless pattern.isTarget do refuse pattern.start
  return pattern

/-- What another operator assigns to. -/
def assignedValue (target : Outline src) : Parser src (Outline src) := do
  unless target.isSimpleTarget do report target.start
  if (← read).typed ∧ target.name?.any isFixedName then report target.start
  unless target.isTarget do refuse target.start
  return target

def assignmentRest (r : Rules src) (target : Outline src) : Parser src (Outline src) := do
  let start := target.start
  if ← isMark "=" then
    let pattern ← assignedPattern target
    advance
    return .node (.assignment true) start [pattern, ← r.assignment]
  unless ← isMarkIn assigningMarks do return target
  let target ← assignedValue target
  advance
  return .node (.assignment false) start [target, ← r.assignment]

def conditionalRest (r : Rules src) (test : Outline src) : Parser src (Outline src) := do
  expectMark "?"
  let yes ← withReader
    ({ · with inConditional := true, beforeColon := true, allowsIn := true }) r.assignment
  expectMark ":"
  let no ← withReader ({ · with inConditional := true, beforeColon := false }) r.assignment
  return .node .conditional test.start [test, yes, no]

end Phrasebook.Script.Parser
