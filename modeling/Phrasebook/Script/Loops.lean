import Phrasebook.Script.Declarations

/-!
Loops. The outline of a loop with its test at the end has the test before the body.
-/
namespace Phrasebook.Script.Parser

variable {src : Source}

def condition (r : Rules src) : Parser src (Outline src) := do
  expectMark "("
  let test ← allowingIn r.expression
  expectMark ")"
  return test

def loopBody (r : Rules src) : Parser src (Outline src) :=
  withReader ({ · with canBreak := true, canContinue := true }) (r.statement false)

def whileStatement (r : Rules src) : Parser src (Outline src) := do
  let start ← place
  advance
  let test ← condition r
  return .node .group start [test, ← loopBody r]

def doStatement (r : Rules src) : Parser src (Outline src) := do
  let start ← place
  advance
  let body ← loopBody r
  expectWord "while"
  let test ← condition r
  discard eatSemicolon
  return .node .group start [test, body]

/-- The head of a loop. Only one with `of` may have `await` in front. -/
structure LoopHead (src : Source) where
  overItems : Bool
  parts : List (Outline src)

def atEach : Parser src Bool := do
  return (← isWord "of") ∨ (← isWord "in")

def eachHead (r : Rules src) (first : Outline src) : Parser src (LoopHead src) := allowingIn do
  if ← eatWord "of" then return ⟨true, [first, ← r.assignment]⟩
  advance
  return ⟨false, [first, ← r.expression]⟩

/-- The head of a loop from behind its first semicolon on. The second one may be missing. -/
def countedHead (r : Rules src) (first : List (Outline src)) :
    Parser src (LoopHead src) := allowingIn do
  let test ←
    if ← eatMark ";" then pure []
    else do
      let test ← r.expression
      discard <| eatMark ";"
      pure [test]
  let step ← if ← isMark ")" then pure [] else pure [← r.expression]
  return ⟨false, first ++ test ++ step⟩

/-- Notes what is wrong with the declaration in the head of a loop over items or keys: more than one
variable, a value, or a type. -/
def checkEachDeclaration (found : List (Declarator src)) : Parser src Unit := do
  match found with
  | [declarator] =>
    unless declarator.value.isEmpty do report declarator.target.start
    unless declarator.types.isEmpty do report declarator.target.start
  | _ => (found.drop 1).forM fun declarator => report declarator.target.start

def lacksVariable (r : Rules src) : Parser src Bool := do
  unless (← read).typed ∧ (← atEach) do return false
  ahead do
    advance
    discard r.expression
    isMark ")"

def declaringHead (r : Rules src) (kind : VariableKind) : Parser src (LoopHead src) := do
  let start ← place
  let stop := (← current).stop
  advance
  let found ←
    if ← lacksVariable r then
      report (stop - 1)
      pure []
    else withReader ({ · with allowsIn := false }) (declarators r kind true)
  let first : Outline src := .node .group start (found.map (·.outline))
  if ← atEach then
    checkEachDeclaration found
    return ← eachHead r first
  expectMark ";"
  countedHead r [first]

def asksForResource : Outline src → Bool
  | .node (.name text) _ _ _ => text = "using"
  | .node .await _ [operand] _ => operand.name? = some "using"
  | _ => false

def expressionHead (r : Rules src) : Parser src (LoopHead src) := do
  let first ← withReader ({ · with allowsIn := false }) r.expression
  let scope ← read
  if scope.typed ∧ asksForResource first ∧ !(← isWord "of") then
    let next ← peek
    if next.isKeyword "of" || next.isKeyword "in" then
      let name ← bindingName false
      if ← isWord "in" then report first.start
      return ← eachHead r name
  if ← atEach then
    let target ← asPattern ⟨false, false⟩ first
    let isPattern := target.form matches .arrayPattern | .objectPattern | .invalid
    if scope.typed ∧ (← isWord "in") ∧ isPattern then report target.start
    return ← eachHead r target
  expectMark ";"
  countedHead r [first]

def loopHead (r : Rules src) : Parser src (LoopHead src) := do
  match ← variableKind? with
  | some kind => declaringHead r kind
  | none => if ← eatMark ";" then countedHead r [] else expressionHead r

def forStatement (r : Rules src) : Parser src (Outline src) := do
  let start ← place
  advance
  let awaitAt ← place
  let waits ← eatWord "await"
  expectMark "("
  let head ← withReader ({ · with inLoopHead := true, inAwaitHead := waits }) (loopHead r)
  expectMark ")"
  let body ← loopBody r
  if waits ∧ !head.overItems then refuse awaitAt
  return .node .group start (head.parts ++ [body])

end Phrasebook.Script.Parser
