import Phrasebook.Script.Functions

/-!
Object literals.
-/
namespace Phrasebook.Script.Parser

variable {src : Source}

def memberFunction (r : Rules src) (parameters : Parser src (List (Parameter src)))
    (isAsync isGenerator : Bool) : Parser src (Function src) :=
  withReader ({ · with allowsSuper := true, inField := false })
    (functionRest r parameters isAsync isGenerator)

def getterParameters (r : Rules src) (start : Nat) : Parser src (List (Parameter src)) := do
  let found ← functionParameters r
  if found.any Parameter.isArgument then report start
  return found

/-- The parameters of a setter: a single one besides `this`, which is no rest parameter. -/
def setterParameters (r : Rules src) (start : Nat) : Parser src (List (Parameter src)) := do
  let found ← functionParameters r
  unless (found.filter Parameter.isArgument).length = 1 do report start
  if let first :: _ := found then
    if first.isRest then report first.pattern.start
  return found

def method (r : Rules src) (isAsync isGenerator : Bool) (key : PropertyKey src) (start : Nat) :
    Parser src (Outline src) := do
  let made ← memberFunction r (functionParameters r) isAsync isGenerator
  return .node (.method key.name?) start [key.outline, made.outline start []]

/-- A getter from behind its key on. Nothing is left of its parameters. -/
def getter (r : Rules src) (key : PropertyKey src) (start : Nat) : Parser src (Outline src) := do
  let made ← memberFunction r (getterParameters r key.start) false false
  return .node (.method key.name?) start (key.outline :: made.result ++ made.body.toList)

/-- A setter from behind its key on. One without a parameter is a fault of its own. The first of
several parameters is taken for `this`, the second for the value. -/
def setter (r : Rules src) (key : PropertyKey src) (start : Nat) : Parser src (Outline src) := do
  let made ← memberFunction r (setterParameters r key.start) false false
  if made.parameters.isEmpty then report key.start
  let patterns := (made.parameters.take 2).map (·.pattern)
  return .node .setter start (key.outline :: patterns ++ made.body.toList)

/-- Whether a property may go on with the current token, where types are written. A plain word may
also be all there is to it. -/
def followsKey (key : PropertyKey src) : Parser src Bool := do
  match ← token with
  | .word _ _ | .string _ | .number | .bigint => return true
  | .mark "\x7d" => return key.word?.isSome
  | .mark text => return text ∈ ["(", "[", ":", ",", "?", "=", "*", "<"]
  | _ => return false

/-- A property that is a word, with a value that only a pattern may have or not. -/
def shorthand (r : Rules src) (key : PropertyKey src) (name : String) (start : Nat) :
    Parser src (Outline src) := do
  if isReservedShorthand name then report key.start
  unless ← eatMark "=" do return .node (.shorthand name) start []
  return .node (.defaulted name) start [← allowingIn r.assignment]

/-- A property from behind its first word on, when that word is no key but starts an accessor or an
asynchronous method. -/
def wordedProperty (r : Rules src) (word : String) (start : Nat) (modifier : Option Nat) :
    Parser src (Outline src) := do
  unless word ∈ ["get", "set", "async"] do unexpected
  modifier.forM report
  let isGenerator ← if word = "async" then eatMark "*" else pure false
  let key ← propertyKey r
  match word with
  | "get" => getter r key start
  | "set" => setter r key start
  | _ => method r true isGenerator key start

def propertyRest (r : Rules src) (key : PropertyKey src) (start : Nat) (modifier : Option Nat) :
    Parser src (Outline src) := do
  let typed := (← read).typed
  if typed ∧ !(← followsKey key) then
    report (← place)
    return .node (.shorthand (key.word?.getD "")) start []
  if ← eatMark ":" then
    return .node (.property key.name?) start [key.outline, ← allowingIn r.assignment]
  if (← isMark "(") ∨ (typed ∧ (← isMark "<")) then return ← method r false false key start
  match key.word? with
  | none => unexpected
  | some name =>
    if ← eatMark "?" then report (← last).start
    if ← isMarkIn ["=", ",", "\x7d"] then shorthand r key name start
    else wordedProperty r name start modifier

def property (r : Rules src) : Parser src (Outline src) := do
  let start ← place
  if ← eatMark "..." then return .node .spread start [← allowingIn r.assignment]
  if ← eatMark "*" then
    let key ← propertyKey r
    return ← method r false true key start
  let modifier ← if ← parameterModifier then pure (some (← last).start) else pure none
  let key ← propertyKey r
  propertyRest r key start modifier

def objectLiteral (r : Rules src) : Parser src (Outline src) := apartFromColon do
  let start ← place
  expectMark "\x7b"
  let (properties, comma) ← commaItems "\x7d" (property r)
  expectMark "\x7d"
  return .node (.object comma) start properties

end Phrasebook.Script.Parser
