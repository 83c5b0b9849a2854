import Phrasebook.Script.TypeMarks

/-!
Accesses and calls behind an expression, and decorators.
-/
namespace Phrasebook.Script.Parser

variable {src : Source}

def argument (r : Rules src) : Parser src (Outline src) := do
  let start ← place
  if ← eatMark "..." then return .node .spread start [← r.assignment]
  r.assignment

def argumentList (r : Rules src) : Parser src (List (Outline src) × Option Nat) := apartFromColon do
  expectMark "("
  let found ← commaItems ")" (allowingIn (argument r))
  expectMark ")"
  return found

def arguments (r : Rules src) : Parser src (List (Outline src)) := do
  return (← argumentList r).1

/-- A call of an expression. A call in an optional chain is no call of a bare name. -/
def invoke (target : Outline src) (optional : Bool) (arguments typeArguments : List (Outline src)) :
    Outline src :=
  let parts := target :: arguments ++ typeArguments
  if optional || target.isChain then .node (.chain false) target.start parts
  else .node (.call arguments.length) target.start parts

def taggedTemplate (r : Rules src) (target : Outline src) (typeArguments : List (Outline src)) :
    Parser src (Outline src) := do
  let text ← valueTemplate r true
  if target.form matches .chain _ then report target.start
  return .node .group target.start (target :: typeArguments ++ [text])

/-- What type arguments are behind an expression, with what they belong to: a call, a template, or
nothing more. The answer tells whether more accesses may follow. -/
def typedLink? (r : Rules src) (noCalls : Bool) (target : Outline src) :
    Parser src (Option (Outline src × Bool)) := attempt do
  let types ← typeArguments r
  if !noCalls ∧ (← isMark "(") then
    return some (invoke target false (← arguments r) [types], true)
  if ← isMark "\x60" then return some (← taggedTemplate r target [types], true)
  if (← isMark "=") ∨ (← isWord "as") ∨ (← isWord "satisfies") then
    return some (.node (.cast .instantiation) target.start [target, types], false)
  return none

def bracketIndex (r : Rules src) : Parser src (Outline src) := do
  expectMark "["
  let index ← allowingIn r.expression
  expectMark "]"
  return index

def instantiated (r : Rules src) (target : Outline src) : Parser src (Outline src) := do
  unless (← read).typed ∧ (← isMark "<") do return target
  match ← instanceArguments? r with
  | some types => return .node (.cast .instantiation) target.start [target, types]
  | none => return target

def plainLink? (r : Rules src) (noCalls noIndex : Bool) (target : Outline src) :
    Parser src (Option (Outline src)) := do
  let optional ← eatMark "?."
  let access (parts : List (Outline src)) : Outline src :=
    if optional || target.isChain then .node (.chain true) target.start parts
    else .node .member target.start parts
  if !noIndex ∧ (← isMark "[") then return some (access [target, ← bracketIndex r])
  let typed := (← read).typed
  let calls : Bool := (← isMark "(") ∨ (optional ∧ typed ∧ (← isMark "<"))
  if calls ∧ (optional ∨ !noCalls) then
    let types ← if ← isMark "<" then pure [← typeArguments r] else pure []
    return some (invoke target optional (← arguments r) types)
  let dotted ← if optional then pure true else eatMark "."
  if dotted then
    memberName
    return some (← instantiated r (access [target]))
  if ← isMark "\x60" then return some (← taggedTemplate r target [])
  return none

def link? (r : Rules src) (noCalls noIndex : Bool) (target : Outline src) :
    Parser src (Option (Outline src × Bool)) := do
  if (← read).typed then
    if (← isMark "!") ∧ !(← onNewLine) then
      advance
      return some (.node (.cast .nonNull) target.start [target], true)
    if ← isMarkIn ["<", "<<"] then
      if let some found ← typedLink? r noCalls target then return some found
  return (← plainLink? r noCalls noIndex target).map (·, true)

def links (r : Rules src) (noCalls noIndex : Bool) (target : Outline src) :
    Parser src (Outline src) := do
  let (target, _) ← iterate (fun (target, more) => do
    unless more do return none
    link? r noCalls noIndex target) (target, true)
  return target

/-- What stands behind `super`. Its members may be used in the members of classes and objects only.
-/
def superLinks (r : Rules src) (noCalls : Bool) (start : Nat) : Parser src (Outline src) := do
  let allowed := (← read).allowsSuper
  let first : Outline src ←
    if ← isMark "[" then
      let index ← bracketIndex r
      unless allowed do refuse start
      pure (.node .superMember start [index])
    else if !noCalls ∧ (← isMark "(") then
      pure (invoke (.node .group start []) false (← arguments r) [])
    else if ← eatMark "." then
      let isPrivate ← isMark "#"
      memberName
      discard <| instantiated r .empty
      unless allowed do refuse start
      if isPrivate then unexpected
      pure (.node .superMember start [])
    else unexpected
  links r noCalls false first

/-- `import(module)` from behind its first word, or words. Only where types are written may a comma
stand behind the arguments. -/
def importCall (r : Rules src) (noCalls : Bool) (start : Nat) : Parser src (Outline src) := do
  if noCalls ∨ !(← isMark "(") then unexpected
  let opening ← place
  let (found, comma) ← argumentList r
  if comma.isSome ∧ !(← read).typed then refuse opening
  if found.isEmpty then refuse start
  links r noCalls false (invoke (.node .group start []) false found [])

/-- `import(module)`, with a phase or not, and `import.meta`, from behind the first word. -/
def importLinks (r : Rules src) (noCalls : Bool) (start : Nat) : Parser src (Outline src) := do
  unless ← eatMark "." do return ← importCall r noCalls start
  let word ← anyWord
  match word.name? with
  | some "meta" => links r noCalls false (.node .group start [])
  | some "defer" => importCall r noCalls start
  | some "source" => importCall r noCalls start
  | _ => unexpected

def decorator (r : Rules src) : Parser src (Outline src) := do
  expectMark "@"
  let target ←
    if ← eatMark "(" then
      let inner ← r.expression
      expectMark ")"
      pure inner
    else links r true false (← identifier)
  let typed := (← read).typed
  let types ← if typed ∧ (← isMark "<") then pure [← typeArguments r] else pure []
  if types.isEmpty ∧ !(← isMark "(") then return target
  let found ← arguments r
  return .node (.call found.length) target.start (target :: found ++ types)

/-- Decorators. In front of an export they may stand only where types are written. -/
def decorators (r : Rules src) : Parser src (List (Outline src)) := do
  let start ← place
  let found ← collect do
    unless ← isMark "@" do return none
    return some (← decorator r)
  let scope ← read
  if !found.isEmpty ∧ (← isWord "export") ∧ !scope.inClass ∧ !scope.inFunction ∧ !scope.typed then
    refuse start
  return found

end Phrasebook.Script.Parser
