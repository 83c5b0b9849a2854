import Phrasebook.Script.Elements
import Phrasebook.Script.Modules

/-!
The grammar of scripts as a whole.
-/
namespace Phrasebook.Script

variable {src : Source}

structure Features where
  typed : Bool
  elements : Bool
  deriving DecidableEq, Repr

def noRules : Rules src where
  assignment := Parser.unexpected
  expression := Parser.unexpected
  unary := Parser.unexpected
  operation _ _ := Parser.unexpected
  callee := Parser.unexpected
  construction := Parser.unexpected
  statement _ := Parser.unexpected
  item := Parser.unexpected
  binding _ := Parser.unexpected
  anyType := Parser.unexpected
  plainType := Parser.unexpected
  element := Parser.unexpected
  namespaceRest := Parser.unexpected

def rules : Nat → Rules src
  | 0 => noRules
  | depth + 1 =>
    { assignment := fun s => Parser.assignment (rules depth) s
      expression := fun s => Parser.expression (rules depth) s
      unary := fun s => Parser.unary (rules depth) s
      operation := fun left least s => Parser.operation (rules depth) left least s
      callee := fun s => Parser.callee (rules depth) s
      construction := fun s => Parser.construction (rules depth) s
      statement := fun declares s => Parser.statement (rules depth) declares s
      item := fun s => Parser.item (rules depth) s
      binding := fun noLet s => Parser.binding (rules depth) noLet s
      anyType := fun s => Parser.anyType (rules depth) s
      plainType := fun s => Parser.plainType (rules depth) s
      element := fun s => Parser.element (rules depth) s
      namespaceRest := fun s => Parser.namespaceRest (rules depth) s }

/-- A script that has been read: its outline and its harmless faults, in the order in which they have
been found. -/
structure Parsed (src : Source) where
  outline : Outline src
  recovered : List SyntaxFault

def Parser.script (r : Rules src) : Parser src (Outline src) := do
  let parts ← collect do
    if ← atEnd then return none
    return some (← r.item)
  return .group parts

/-- Nesting is bounded by the length of the script: no rule calls itself through more than sixteen
others without passing over a character. -/
def nestingLimit (src : Source) : Nat :=
  16 * (src.size + 2)

def Scope.outermost (features : Features) : Scope where
  typed := features.typed
  elements := features.elements
  strict := true
  quiet := false
  inType := false
  inFunction := false
  inPlainFunction := false
  inAsync := false
  inGenerator := false
  inParameters := false
  inClass := false
  inField := false
  hasSuperclass := false
  allowsSuper := false
  canBreak := false
  canContinue := false
  labels := []
  allowsIn := false
  inConditional := false
  beforeColon := false
  ambient := false
  noConditional := false
  inLoopHead := false
  inAwaitHead := false

/-- Moves to the first token. It stands behind a first line that names an interpreter, if there is
one; otherwise it is read before it is known that the script is a module. -/
def Parser.begin : Parser src Unit := do
  if src.hasAt 0 "#!" then moveTo (src.lineEnd 0)
  else withReader ({ · with strict := false }) (moveTo 0)

def parse (features : Features) (src : Source) : Except SyntaxFault (Parsed src) :=
  let r := rules (nestingLimit src)
  let whole : Parser src (Outline src) := do
    Parser.begin
    Parser.script r
  match whole (Scope.outermost features) default with
  | (.error fault, _) => .error fault
  | (.ok outline, cursor) => .ok ⟨outline, cursor.faults.reverse⟩

end Phrasebook.Script
