import Phrasebook.Script.Links
import Phrasebook.Script.Pattern

/-!
Keys of properties, and the patterns that bind names.
-/
namespace Phrasebook.Script

variable {src : Source}

inductive KeyKind where
  | word (text : String)
  /-- A string literal. One with a lone surrogate has no value. -/
  | string (value : Option String)
  | number
  | computed
  | privateName
  deriving DecidableEq, Repr

structure PropertyKey (src : Source) where
  kind : KeyKind
  start : Nat
  outline : Outline src

namespace PropertyKey

def name? (key : PropertyKey src) : Option String :=
  match key.kind with
  | .word text => some text
  | .string value => value
  | _ => none

def word? (key : PropertyKey src) : Option String :=
  match key.kind with
  | .word text => some text
  | _ => none

def isConstructor (key : PropertyKey src) : Bool := key.name? = some "constructor"

end PropertyKey

namespace Parser

/-- An expression between the brackets of a computed key. Types let commas stand in it, as a
harmless fault. -/
def computedKey (r : Rules src) : Parser src (Outline src) := do
  let start ← place
  let first ← allowingIn r.assignment
  unless (← read).typed ∧ (← isMark ",") do return first
  let more ← collect do
    unless ← eatMark "," do return none
    return some (← allowingIn r.assignment)
  report start
  return .group (first :: more)

def propertyKey (r : Rules src) : Parser src (PropertyKey src) := do
  let start ← place
  match ← token with
  | .word text _ =>
    advance
    return ⟨.word text, start, .empty⟩
  | .string value =>
    advance
    return ⟨.string value, start, .empty⟩
  | .number =>
    advance
    return ⟨.number, start, .empty⟩
  | .bigint =>
    advance
    return ⟨.number, start, .empty⟩
  | .mark "[" =>
    advance
    let inner ← computedKey r
    expectMark "]"
    return ⟨.computed, start, inner⟩
  | _ => unexpected

def bindingElement (r : Rules src) : Parser src (Outline src) := do
  let start ← place
  let target ← r.binding false
  unless ← eatMark "=" do return target
  let value ← allowingIn r.assignment
  if (← read).ambient then report start
  return .node .initialized start [target, value]

def ambientMark : Parser src Unit := do
  if (← read).ambient then discard <| eatMark "?"

/-- An element of an array pattern with the comma behind it. A rest pattern is the last element, and
no comma follows it. -/
def arrayElement (r : Rules src) : Parser src (Outline src) := do
  let start ← place
  let isRest ← eatMark "..."
  let part ← if isRest then pure (.node .rest start [← r.binding false]) else bindingElement r
  unless ← isMark "]" do
    expectMark ","
    if isRest ∧ (← isMark "]") then report (← last).start
  return part

def arrayPattern (r : Rules src) : Parser src (Outline src) := do
  let start ← place
  expectMark "["
  let (_, parts) ← iterate (fun (rest, parts) => do
    if (← isMark "]") ∨ (← atEnd) then return none
    if ← eatMark "," then return some (rest, .node .hole 0 [] :: parts)
    rest.forM report
    let part ← arrayElement r
    return some (if part.form = .rest then some part.start else rest, part :: parts))
    ((none : Option Nat), [])
  expectMark "]"
  ambientMark
  return .node .arrayPattern start parts.reverse

def propertyPattern (r : Rules src) : Parser src (Outline src) := do
  let start ← place
  if ← eatMark "..." then return .node .rest start [← r.binding false]
  let key ← propertyKey r
  if ← eatMark ":" then
    return .node (.property key.name?) start [key.outline, ← bindingElement r]
  match key.word? with
  | none => unexpected
  | some name =>
    if ← eatMark "=" then
      return .node (.defaulted name) start [← allowingIn r.assignment]
    if isReservedShorthand name then report key.start
    return .node (.shorthand name) start []

/-- Checks that a rest pattern in an object is the last one and a name, with no comma behind it. -/
def checkRests (comma : Option Nat) : List (Outline src) → Parser src Unit
  | [] => return
  | property :: later => do
    if property.form = .rest then
      if !later.isEmpty then report property.start
      else if property.parts.all Outline.isName then comma.forM report
      else refuse property.start
    checkRests comma later

def objectPattern (r : Rules src) : Parser src (Outline src) := apartFromColon do
  let start ← place
  expectMark "\x7b"
  let (properties, comma) ← commaItems "\x7d" (propertyPattern r)
  expectMark "\x7d"
  checkRests comma properties
  ambientMark
  return .node .objectPattern start properties

def binding (r : Rules src) (noLet : Bool) : Parser src (Outline src) := do
  match ← token with
  | .mark "[" => arrayPattern r
  | .mark "\x7b" => objectPattern r
  | _ => bindingName noLet

end Parser
end Phrasebook.Script
