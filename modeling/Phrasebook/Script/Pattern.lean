import Phrasebook.Script.Names

/-!
Expressions that turn out to be patterns: what is assigned to, and the parameters of arrow
functions. An expression that is no pattern is a harmless fault, and nothing is left of it.
-/
namespace Phrasebook.Script

variable {src : Source}

/-- What a pattern is for: a parameter or the target of an assignment, as a whole or as a part of
another pattern. -/
structure PatternUse where
  binds : Bool
  isPart : Bool
  deriving DecidableEq, Repr

def PatternUse.part (use : PatternUse) : PatternUse := { use with isPart := true }

/-- The pattern that stands for an expression that is none. -/
def Outline.invalidAt (start : Nat) : Outline src := .node .invalid start []

namespace Parser

/-- Notes a fault if a plain value cannot be stored in an expression. Where types are written,
literals, operations and perhaps calls are let pass. -/
def checkTarget (target : Outline src) (denyCalls : Bool) : Parser src Unit := do
  if (← read).typed then
    if target.name?.any isFixedName then report target.start
    else if !target.isSimpleTarget ∧ isDenied target then report target.start
  else unless target.isSimpleTarget do report target.start
where
  isDenied : Outline src → Bool
    | .node (.text _) _ _ _ => false
    | .node .literal _ _ _ => false
    | .node .sum _ _ _ => false
    | .node .binary _ _ _ => false
    | .node (.logical _) _ _ _ => false
    | .node (.call _) _ _ _ => denyCalls
    | .node .paren _ (inner :: _) _ => isDenied inner
    | _ => true

/-- Whether an expression can be a part of the target of an assignment as it is. -/
def staysInTarget (form : Form) : Bool :=
  match form with
  | .name _ | .text _ | .literal | .template _ | .member | .superMember | .call _ | .creation _
  | .function | .classExpr | .paren | .cast .asType => true
  | _ => false

mutual

/-- The pattern an expression stands for. -/
def asPattern (use : PatternUse) : Outline src → Parser src (Outline src)
  | .node form start parts opens => do
    let whole : Outline src := .node form start parts opens
    let isLiteralPattern := form matches .array _ | .object _
    if form = .invalid then return whole
    if !use.binds ∧ !use.isPart ∧ !isLiteralPattern then
      checkTarget whole true
      return whole
    if !use.binds ∧ use.isPart ∧ !isLiteralPattern then
      if staysInTarget form then
        unless whole.isSimpleTarget do report start
        return whole
      unless form matches .assignment _ do report start
    match form with
    | .name _ => return whole
    | .array comma => return .node .arrayPattern start (← asElements use.part comma parts)
    | .object comma => return .node .objectPattern start (← asProperties use.part comma parts)
    | .assignment true => return .node .initialized start (← asDefaulted use parts)
    | _ =>
      report start
      return .invalidAt start

def asDefaulted (use : PatternUse) : List (Outline src) → Parser src (List (Outline src))
  | target :: value => do
    if target.form matches .arrayPattern | .objectPattern then return target :: value
    return (← asPattern use target) :: value
  | [] => return []

/-- The patterns in an array. A rest pattern in front of another element is dropped. -/
def asElements (use : PatternUse) (comma : Option Nat) :
    List (Outline src) → Parser src (List (Outline src))
  | [] => return []
  | element :: later => do
    match element with
    | .node .hole _ _ _ =>
      let others ← asElements use comma later
      return element :: others
    | .node .spread start [inner] _ =>
      unless later.isEmpty do
        report start
        return ← asElements use comma later
      if inner.form matches .assignment _ then report start
      comma.forM report
      return [.node .rest start [← asPattern use inner]]
    | element =>
      let first ← asPattern use element
      let others ← asElements use comma later
      return first :: others

def asProperties (use : PatternUse) (comma : Option Nat) :
    List (Outline src) → Parser src (List (Outline src))
  | [] => return []
  | property :: later => do
    let first ←
      match property with
      | .node (.shorthand _) _ _ _ => pure property
      | .node (.defaulted _) _ _ _ => pure property
      | .node (.property key) start [name, value] _ =>
        pure (.node (.property key) start [name, ← asPattern use value])
      | .node .spread start [inner] _ => do
        if later.isEmpty then comma.forM report else report start
        if use.binds then
          if inner.isName then pure (.node .rest start [inner])
          else
            report start
            pure (.node .rest start [.invalidAt start])
        else
          let target ← asPattern use inner
          if target.form = .initialized then report start
          pure (.node .rest start [target])
      | property => refuse property.start
    return first :: (← asProperties use comma later)

end

/-- Notes a fault for each fixed name that a pattern binds. -/
def checkBoundNames : Outline src → Parser src Unit
  | .node form start parts _ => do
    match form with
    | .name text => if isFixedName text then report start
    | .shorthand text => if isFixedName text then report start
    | .defaulted text => if isFixedName text then report start
    | .arrayPattern => checkAll parts
    | .objectPattern => checkAll parts
    | .rest => checkFirst parts
    | .initialized => checkFirst parts
    | .property _ => checkValue parts
    | _ => return
where
  checkAll : List (Outline src) → Parser src Unit
    | [] => return
    | part :: parts => do
      checkBoundNames part
      checkAll parts
  checkFirst : List (Outline src) → Parser src Unit
    | [] => return
    | part :: _ => checkBoundNames part
  checkValue : List (Outline src) → Parser src Unit
    | [_, value] => checkBoundNames value
    | _ => return

end Parser
end Phrasebook.Script
