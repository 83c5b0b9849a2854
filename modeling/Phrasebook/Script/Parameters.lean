import Phrasebook.Script.Bindings

/-!
Parameters of functions and of constructors.
-/
namespace Phrasebook.Script

variable {src : Source}

/-- A parameter with its decorators. A constructor's parameter may be a property as well. -/
structure Parameter (src : Source) where
  decorators : List (Outline src)
  pattern : Outline src
  start : Nat
  isProperty : Bool

namespace Parameter

def outline (parameter : Parameter src) : Outline src :=
  .node .group parameter.start (parameter.decorators ++ [parameter.pattern])

def isRest (parameter : Parameter src) : Bool := parameter.pattern.form = .rest

def isInitialized (parameter : Parameter src) : Bool := parameter.pattern.form = .initialized

def isArgument (parameter : Parameter src) : Bool := parameter.pattern.name? ≠ some "this"

end Parameter

namespace Parser

/-- Whether a word modifies the parameter behind it. The modifier is passed over. -/
def parameterModifier : Parser src Bool := do
  let words := ["public", "protected", "private", "readonly"]
  unless (← read).typed do return false
  match ← token with
  | .word text false =>
    unless text ∈ words do return false
    let next ← peek
    unless next.isWord || next.isMark "\x7b" || next.isMark "[" do return false
    discard <| modifier? words
    return true
  | _ => return false

/-- The `?` behind a parameter. -/
def optionalMark (target : Outline src) : Parser src Bool := do
  unless ← eatMark "?" do return false
  match target.form with
  | .initialized =>
    unless (← read).ambient do refuse (← last).start
    return false
  | _ => return true

def plainParameter (r : Rules src) : Parser src (Outline src) := do
  let start ← place
  let modified ← parameterModifier
  let target ← bindingElement r
  let isOptional ← if (← read).typed then optionalMark target else pure false
  let types ← optionalType r
  let isInitialized := target.form = .initialized
  if isInitialized ∧ !types.isEmpty then report (← last).start
  let pattern := if isInitialized then target else target.withParts types
  let pattern ←
    if ← eatMark "=" then
      if isOptional then report pattern.start
      let value ← r.assignment
      if (← read).ambient then report start
      pure (.node .initialized start [pattern, value])
    else pure pattern
  if modified then report start
  return pattern

/-- A rest parameter. A function's may look as if it had a default value or were optional. -/
def restParameter (r : Rules src) (ofConstructor : Bool) : Parser src (Outline src) := do
  let start ← place
  expectMark "..."
  let target ← r.binding false
  let value : List (Outline src) ←
    if !ofConstructor ∧ (← isMark "=") then
      advance
      let value ← r.assignment
      report target.start
      pure [value]
    else pure []
  let types ← optionalType r
  if !ofConstructor ∧ (← read).typed then
    if ← eatMark "?" then report (← last).start
  return .node .rest start (target :: value ++ types)

def functionParameter (r : Rules src) : Parser src (Parameter src) := do
  let start ← place
  let decorators ← decorators r
  let pattern ← if ← isMark "..." then restParameter r false else plainParameter r
  return ⟨decorators, pattern, start, false⟩

/-- A word that says from where a member can be reached. Two others are harmless faults. -/
def accessModifier : Parser src Bool := do
  match ← modifier? ["public", "protected", "private", "in", "out"] with
  | none => return false
  | some word =>
    if word = "in" ∨ word = "out" then
      report (← last).start
      return false
    return true

def constructorParameter (r : Rules src) : Parser src (Parameter src) := do
  let start ← place
  let decorators ← decorators r
  if ← isMark "..." then return ⟨decorators, ← restParameter r true, start, false⟩
  let hasAccess ← accessModifier
  let overrides := (← modifier? ["override"]).isSome
  let isReadonly := (← modifier? ["readonly"]).isSome
  let pattern ← plainParameter r
  let isProperty := hasAccess || overrides || isReadonly
  if isProperty then
    unless pattern.isName ∨ pattern.form = .initialized do refuse pattern.start
  return ⟨decorators, pattern, start, isProperty⟩

/-- Parameters up to a closing parenthesis, which is not read. A rest parameter is the last one, and
no comma follows it. -/
def parameterList (parameter : Parser src (Parameter src)) : Parser src (List (Parameter src)) := do
  let (_, found) ← iterate (fun (rest, found) => do
    if (← isMark ")") ∨ (← atEnd) then return none
    rest.forM report
    let parameter ← parameter
    unless ← isMark ")" do
      expectMark ","
      if parameter.isRest ∧ (← isMark ")") then report (← last).start
    return some (if parameter.isRest then some parameter.pattern.start else rest,
      parameter :: found)) ((none : Option Nat), [])
  return found.reverse

def functionParameters (r : Rules src) : Parser src (List (Parameter src)) :=
  parameterList (functionParameter r)

end Parser
end Phrasebook.Script
