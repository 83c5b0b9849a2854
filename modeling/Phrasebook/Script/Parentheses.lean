import Phrasebook.Script.Functions
import Phrasebook.Script.Operators

/-!
What stands between parentheses: an expression, the parameters of an arrow function, or the arguments
of a call of `async`. Which of them it is shows behind the closing parenthesis.
-/
namespace Phrasebook.Script

variable {src : Source}

/-- An item between parentheses: an expression, which may be spread, or what only a parameter can
be. -/
structure ParenItem (src : Source) where
  outline : Outline src
  isPattern : Bool

namespace Parser

def markArrowStart (start : Option Nat) : Parser src Unit :=
  modify fun c => { c with arrowStart := start }

def mayStartArrow : Parser src Bool := do
  return (← get).arrowStart = some (← place)

def startsWithName : Parser src Bool := do
  if ← isMark "..." then peekIsReference else atReference

/-- An item that is an expression so far. Where types are written, a question mark behind a name may
belong to a parameter. -/
def itemValue (r : Rules src) : Parser src (Outline src) := do
  unless (← read).typed ∧ (← startsWithName) do return ← argument r
  let start ← place
  if ← eatMark "..." then return .node .spread start [← binary r]
  assignmentRest r (← binary r)

/-- Whether the current `?` belongs to a parameter. -/
def questionEndsParameter : Parser src Bool := do
  match (← peek).token with
  | .mark text => return text ∈ [",", "=", ")", ":"]
  | _ => return false

/-- Passes over the `?` of a parameter, or reads the rest of a conditional expression. -/
def itemQuestion (r : Rules src) (value : Outline src) : Parser src (Outline src × Bool) := do
  unless (← read).typed ∧ (← isMark "?") do return (value, false)
  let isSpread := value.form = .spread
  if ← questionEndsParameter then
    advance
    if isSpread then report (← last).start
    let name := if isSpread then value.parts else [value]
    unless name.all Outline.isName do refuse value.start
    return (value, true)
  if isSpread then return (value, false)
  return (← conditionalRest r value, false)

/-- The pattern that an item stands for, with the type and the default value behind it. A type behind
a default value is a harmless fault. -/
def itemPattern (r : Rules src) (value : Outline src) (start : Nat) : Parser src (Outline src) := do
  let pattern ←
    match value with
    | .node .spread _ [inner] _ => do
      let target ← asPattern ⟨true, false⟩ inner
      pure (.node .rest start [target])
    | value => asPattern ⟨true, false⟩ value
  let types ← if pattern.form = .invalid then pure [] else optionalType r
  let isInitialized := pattern.form = .initialized
  if isInitialized ∧ !types.isEmpty then report start
  let pattern := if isInitialized then pattern else pattern.withParts types
  unless ← eatMark "=" do return pattern
  return .node .initialized start [pattern, ← r.assignment]

def parenItem (r : Rules src) : Parser src (ParenItem src) := do
  let start ← place
  markArrowStart (some start)
  let modified ← parameterModifier
  let patternStart ← place
  let (value, isOptional) ← itemQuestion r (← itemValue r)
  if isOptional ∨ ((← read).typed ∧ (← isMark ":")) then
    let pattern ← itemPattern r value patternStart
    if modified then report start
    return ⟨pattern, true⟩
  if modified then report start
  return ⟨value, false⟩

/-- The patterns in front of the last parameter of an arrow function. Rest parameters are dropped.
-/
def earlyParameter (item : ParenItem src) : Parser src (List (Outline src)) := do
  if item.outline.form = .rest ∨ item.outline.form = .spread then
    report item.outline.start
    return []
  if item.isPattern then return [item.outline]
  return [← asPattern ⟨true, false⟩ item.outline]

/-- The pattern of the last parameter of an arrow function. No comma follows a rest parameter, and
it has no default value. -/
def lastParameter (item : ParenItem src) (comma : Option Nat) : Parser src (Outline src) := do
  match item.outline with
  | .node .rest start parts _ =>
    comma.forM report
    return .node .rest start parts
  | .node .spread start [inner] _ =>
    if inner.form matches .assignment _ then report start
    comma.forM report
    return .node .rest start [← asPattern ⟨true, false⟩ inner]
  | outline => if item.isPattern then return outline else asPattern ⟨true, false⟩ outline

/-- The patterns of the parameters that items stand for. -/
def itemParameters (comma : Option Nat) : List (ParenItem src) → Parser src (List (Outline src))
  | [] => return []
  | [item] => return [← lastParameter item comma]
  | item :: later => do
    let first ← earlyParameter item
    return first ++ (← itemParameters comma later)

def arrowParameters (items : List (ParenItem src)) (comma : Option Nat) :
    Parser src (List (Outline src)) := do
  let found ← itemParameters comma items
  found.forM checkBoundNames
  return found

/-- An arrow function from behind its arrow on. Its type parameters stand between its body and its
return type. -/
def arrowRest (r : Rules src) (isAsync : Bool) (start : Nat)
    (parameters typeParameters result : List (Outline src)) : Parser src (Outline src) := do
  let body ← arrowBody r isAsync parameters
  return .node .arrow start
    [.group parameters, body, .group typeParameters, .group result]

/-- An arrow that follows an item on a new line. It belongs to the first item, if that is a name. -/
def lateArrow (r : Rules src) (start : Nat) (items : List (ParenItem src)) :
    Parser src (List (ParenItem src)) := do
  unless ← eatMark "=>" do return []
  match items with
  | first :: _ =>
    unless first.outline.isName do return []
    let parameters ← arrowParameters items none
    return [⟨← arrowRest r false start parameters [] [], false⟩]
  | [] => return []

/-- The items between parentheses, with the place of the comma behind the last one. -/
def parenItems (r : Rules src) : Parser src (List (ParenItem src) × Option Nat) :=
  apartFromColon <| allowingIn do
    expectMark "("
    let (found, comma) ← iterate (fun (found, comma) => do
      if (← isMark ")") ∨ (← atEnd) then return none
      let start ← place
      let found := found ++ [← parenItem r]
      let found := found ++ (← lateArrow r start found)
      if ← isMark ")" then return some (found, comma)
      expectMark ","
      let place := (← last).start
      return some (found, if ← isMark ")" then some place else comma)) ([], none)
    expectMark ")"
    return (found, comma)

/-- An arrow function in a branch of a conditional, with a return type in front of the arrow. In the
middle of the conditional its own colon must follow. -/
def conditionalArrow? (r : Rules src) (isAsync : Bool) (start : Nat) (found : List (ParenItem src))
    (comma : Option Nat) : Parser src (Option (Outline src)) := do
  let scope ← read
  unless scope.typed ∧ scope.inConditional ∧ (← isMark ":") do return none
  attempt do
    let result ← returnType r
    expectMark "=>"
    let parameters ← arrowParameters found comma
    let made ← arrowRest r isAsync start parameters [] [result]
    if scope.beforeColon ∧ !(← isMark ":") then return none
    return some made

/-- The return type behind parameters, if an arrow follows it. -/
def arrowResult? (r : Rules src) : Parser src (Option (Outline src)) := do
  let scope ← read
  unless scope.typed ∧ !scope.beforeColon ∧ (← isMark ":") do return none
  attempt do
    let result ← returnType r
    if ← isMark "=>" then return some result else return none

/-- What stands behind the body of an arrow function. An operator behind a block is a harmless fault,
and so is what follows its operands on the same line. -/
def behindArrow (r : Rules src) (made : Outline src) (hasBlock : Bool) :
    Parser src (Outline src) := do
  unless hasBlock do return made
  match ← token with
  | .mark text =>
    unless (operatorRank? text).isSome do return made
    report (← place)
    let outline ← r.operation made 0
    unless ← atStatementEnd do report (← place)
    return outline
  | _ => return made

/-- Notes a fault for each property of an object literal that only a pattern may have. -/
def checkDefaulted (item : ParenItem src) : Parser src Unit := do
  if item.outline.form matches .object _ then
    item.outline.parts.forM fun property => do
      if property.form matches .defaulted _ then report property.start

/-- Items that are no parameters: an expression in parentheses, or the arguments of a call of
`async`. -/
def plainItems (async : Option (WordPlace src "async")) (start : Nat)
    (found : List (ParenItem src)) : Parser src (Outline src) := do
  found.forM checkDefaulted
  if let some item := found.find? (·.isPattern) then refuse item.outline.start
  let values := found.map (·.outline)
  if let some word := async then
    return .node (.call values.length) word.start (.ofWord word :: values)
  if values.isEmpty then refuse start
  if let some value := values.find? (·.form = .spread) then
    refuse ((value.parts.head?.map Outline.start).getD value.start)
  match values with
  | [value] => return .node .paren start [value]
  | _ => return .node .paren start [.group values]

def parenthesized (r : Rules src) (mayBeArrow : Bool) (async : Option (WordPlace src "async")) :
    Parser src (Outline src) := do
  let start := (async.map WordPlace.start).getD (← place)
  let isAsync := async.isSome
  let (found, comma) ← parenItems r
  if let some made ← conditionalArrow? r isAsync start found comma then return made
  let result ← arrowResult? r
  unless found.any (·.isPattern) ∨ result.isSome ∨ (← isMark "=>") do
    return ← plainItems async start found
  if (← onNewLine) ∨ !mayBeArrow then refuse start
  expectMark "=>"
  let parameters ← arrowParameters found comma
  let hasBlock ← isMark "\x7b"
  behindArrow r (← arrowRest r isAsync start parameters [] result.toList) hasBlock

end Parser
end Phrasebook.Script
