import Phrasebook.Script.Parameters

/-!
Functions: their bodies, and function expressions and declarations.
-/
namespace Phrasebook.Script

variable {src : Source}

/-- A function from its parameters on, with its type parameters and its return type. -/
structure Function (src : Source) where
  parameters : List (Parameter src)
  body : Option (Outline src)
  typeParameters : List (Outline src)
  result : List (Outline src)

def Function.outline (made : Function src) (start : Nat) (decorators : List (Outline src)) :
    Outline src :=
  .node .function start
    (made.parameters.map Parameter.outline ++ decorators ++ made.body.toList ++
      made.typeParameters ++ made.result)

def Scope.inBody (isAsync isGenerator isArrow : Bool) (scope : Scope) : Scope :=
  { scope with
    inFunction := true
    inPlainFunction := !isArrow || scope.inPlainFunction
    inAsync := isAsync
    inGenerator := isGenerator
    canBreak := false
    canContinue := false
    labels := [] }

/-- The rules in a function that starts out on its own: outside of members, fields and conditionals.
-/
def Scope.onItsOwn (scope : Scope) : Scope :=
  { scope with allowsSuper := false, inField := false, beforeColon := false }

namespace Parser

/-- Statements up to the closing brace, which is passed over. A brace that is missing at the end of
the script is a harmless fault. -/
def statementsToBrace (r : Rules src) : Parser src (List (Outline src)) := do
  let found ← collect do
    if (← isMark "\x7d") ∨ (← atEnd) then return none
    return some (← r.statement true)
  if ← atEnd then report (← place) else advance
  return found

def block (r : Rules src) : Parser src (Outline src) := do
  let start ← place
  expectMark "\x7b"
  return .node .group start (← statementsToBrace r)

/-- The string literals that stand as statements in front of all others. -/
def directives : List (Outline src) → List (Outline src)
  | .node .statement _ [.node (.text value) start parts _] _ :: later =>
    .node (.text value) start parts :: directives later
  | _ => []

/-- Checks that no directive makes a function strict whose parameters are more than names. Scripts
with types are not checked. -/
def checkDirectives (parameters : List (Outline src)) (body : Outline src) : Parser src Unit := do
  let scope ← read
  let isStrict (directive : Outline src) : Bool :=
    src.hasAt directive.start "'use strict'" ||
      src.hasAt directive.start "\"use strict\""
  unless scope.typed ∨ parameters.all Outline.isName do
    ((directives body.parts).find? isStrict).forM fun directive => report directive.start

def checkAmbientBody : Parser src Unit := do
  if (← read).ambient ∧ (← isMark "\x7b") then report (← place)

/-- The body of a function that is no arrow function. Where types are written, it may be missing. -/
def functionBody (r : Rules src) (isAsync isGenerator : Bool) (parameters : List (Outline src)) :
    Parser src (Option (Outline src)) := do
  checkAmbientBody
  withReader (Scope.inBody isAsync isGenerator false) do
    if (← read).typed ∧ !(← isMark "\x7b") then
      if ← eatSemicolon then return none
    let body ← allowingIn (block r)
    checkDirectives parameters body
    return some body

def arrowBody (r : Rules src) (isAsync : Bool) (parameters : List (Outline src)) :
    Parser src (Outline src) := do
  checkAmbientBody
  withReader (Scope.inBody isAsync false true) do
    unless ← isMark "\x7b" do return ← r.assignment
    let body ← block r
    checkDirectives parameters body
    return body

/-- A function from its parameters on. One without a body has no default values either. -/
def functionRest (r : Rules src) (parameters : Parser src (List (Parameter src)))
    (isAsync isGenerator : Bool) : Parser src (Function src) :=
  withReader ({ · with inAsync := isAsync, inGenerator := isGenerator }) do
    let typeParameters ← optionalTypeParameters r false true
    expectMark "("
    let parameters ← withReader ({ · with inParameters := true, inFunction := false }) parameters
    expectMark ")"
    let result ← optionalReturnType r
    let body ← functionBody r isAsync isGenerator (parameters.map (·.pattern))
    if body.isNone then
      (parameters.filter Parameter.isInitialized).forM fun p => report p.pattern.start
    return ⟨parameters, body, typeParameters, result⟩

def atAsyncFunction : Parser src Bool :=
  isWordBefore "async" fun next => next.isKeyword "function" && !next.newline

def functionExpression (r : Rules src) (isAsync : Bool) (start : Nat) :
    Parser src (Outline src) := do
  expectWord "function"
  let isGenerator ← eatMark "*"
  let _ ← withReader ({ · with inAsync := isAsync, inGenerator := isGenerator })
    (bindingName? false)
  let made ← withReader Scope.onItsOwn
    (functionRest r (functionParameters r) isAsync isGenerator)
  if made.body.isNone then unexpected
  return made.outline start []

/-- A function declaration from its `function` on. Only a default export does without a name. -/
def functionDeclaration (r : Rules src) (isAsync needsName : Bool) (decorators : List (Outline src))
    (start : Nat) : Parser src (Outline src) := do
  expectWord "function"
  let isGenerator ← eatMark "*"
  let _ ← if needsName then some <$> bindingName false else bindingName? false
  let made ← withReader Scope.onItsOwn
    (functionRest r (functionParameters r) isAsync isGenerator)
  return made.outline start decorators

end Parser
end Phrasebook.Script
