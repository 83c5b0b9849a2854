import Phrasebook.Script.Primary

/-!
Expressions with the accesses and calls behind them, and `new` expressions.
-/
namespace Phrasebook.Script

variable {src : Source}

def Outline.reachesChain : Outline src → Bool
  | .node (.chain _) _ _ _ => true
  | .node .member _ (target :: _) _ => (target.form matches .chain _)
  | _ => false

/-- A callee that may have decorators in front. They are dropped, but it is reported where they
begin. -/
def Outline.behindDecorators (target : Outline src) (first : Lexeme src) : Outline src :=
  if h : first.token = .mark "@" then
    .node target.form first.start target.parts
      ((Lexeme.showsOpening_of_mark h rfl).opens_form _)
  else target

namespace Parser

def callTypeArguments? (r : Rules src) : Parser src (Option (Outline src)) := do
  unless (← read).typed ∧ (← isMarkIn ["<", "<<"]) do return none
  attempt do
    let types ← typeArguments r
    if ← isMark "(" then return some types else return none

/-- `new.target` from its dot on, which stands in functions and classes only. -/
def newTarget (r : Rules src) (start : Nat) : Parser src (Outline src) := do
  expectMark "."
  unless ← eatWord "target" do unexpected
  let scope ← read
  unless scope.inPlainFunction ∨ scope.inParameters ∨ scope.inClass do report start
  links r true false (.node .group start [])

/-- A `new` expression from its callee on. Accesses follow it only if it has arguments. -/
def creation (r : Rules src) (word : WordPlace src "new") : Parser src (Outline src) := do
  let target ← r.construction
  if target.isArrow then return target
  if target.reachesChain then refuse target.start
  let types := (← callTypeArguments? r).toList
  unless ← isMark "(" do return .node (.creation 0) word.start (target :: types) word.opens
  let found ← arguments r
  links r true false
    (.node (.creation found.length) word.start (target :: found ++ types) word.opens)

def construction (r : Rules src) : Parser src (Outline src) := do
  let start ← place
  if let some word ← takeWord? "new" then
    if ← isMark "." then return ← newTarget r word.start
    return ← creation r word
  if ← eatWord "super" then return ← superLinks r true start
  if ← eatWord "import" then return ← importLinks r true start
  let target ← primary r
  if target.isArrow then return target
  links r true false (← instantiated r target)

def callee (r : Rules src) : Parser src (Outline src) := do
  let first ← current
  if (← read).elements ∧ (← isMark "<") then
    let made ← r.element
    advance
    return made
  if ← eatWord "super" then return ← superLinks r false first.start
  if ← eatWord "import" then return ← importLinks r false first.start
  let target ← r.construction
  if target.isArrow then return target
  let types := (← callTypeArguments? r).toList
  unless ← isMark "(" do return target
  let found ← arguments r
  links r false false (invoke (target.behindDecorators first) false found types)

end Parser
end Phrasebook.Script
