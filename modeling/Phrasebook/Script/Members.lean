import Phrasebook.Script.Types

/-!
Members of classes. The outline of a field has its decorators behind its value, and that of a
method behind its parameters.
-/
namespace Phrasebook.Script

variable {src : Source}

/-- A member of a class. `needsAbstract` tells whether only an abstract class may have it. -/
structure ClassMember (src : Source) where
  outline : Outline src
  start : Nat
  needsAbstract : Bool
  /-- Whether it is a constructor with a body. -/
  constructs : Bool

/-- What stands in front of the key of a member: its decorators, and its modifiers with the places
of some of them. -/
structure MemberHead (src : Source) where
  start : Nat
  decorators : List (Outline src)
  declareAt : Option Nat
  hasAccess : Bool
  staticAt : Option Nat
  isStatic : Bool
  isAccessor : Bool
  isAbstract : Bool
  overrides : Bool
  readonlyAt : Option Nat
  /-- The last of the modifiers behind `static`. -/
  modifierAt : Option Nat

namespace MemberHead

def member (head : MemberHead src) (outline : Outline src) :
    ClassMember src := ⟨outline, head.start, false, false⟩

end MemberHead

namespace Parser

/-- Whether the parameters of a method start here. -/
def atMethod : Parser src Bool := do
  return (← isMark "(") ∨ ((← read).typed ∧ (← isMark "<"))

/-- Whether a field goes on or ends here. A line break may end it or not. -/
def atField (orLineBreak : Bool) : Parser src Bool := do
  if (← read).typed ∧ (← isMarkIn ["!", ":"]) then return true
  if ← isMarkIn ["=", "\x7d", ";"] then return true
  if orLineBreak then atStatementEnd else return false

def memberKey (r : Rules src) : Parser src (PropertyKey src) := do
  unless ← isMark "#" do return ← propertyKey r
  let start ← place
  let name ← privateName
  if name.name? = some "constructor" then report start
  return ⟨.privateName, start, .empty⟩

def methodRest (r : Rules src) (head : MemberHead src)
    (parameters : Parser src (List (Parameter src)))
    (isAsync isGenerator : Bool) (key : PropertyKey src) : Parser src (ClassMember src) := do
  let made ← memberFunction r parameters isAsync isGenerator
  let isPrivate := key.kind = .privateName
  if isPrivate then
    if head.hasAccess then report head.start
  else if head.isAbstract ∧ made.body.isSome then report head.start
  let outline : Outline src := .group [key.outline, made.outline head.start head.decorators]
  return { head.member outline with needsAbstract := head.isAbstract && !isPrivate }

def fieldValue (r : Rules src) : Parser src (List (Outline src)) := do
  unless ← eatMark "=" do return []
  return [← withReader ({ · with allowsIn := true, inField := true }) r.assignment]

def fieldRest (r : Rules src) (head : MemberHead src) (isOptional : Bool) (key : PropertyKey src) :
    Parser src (ClassMember src) := do
  if key.isConstructor then refuse key.start
  let isPrivate := key.kind = .privateName
  if isPrivate ∧ head.declareAt.isSome then report key.start
  if isPrivate ∧ head.isAbstract then report key.start
  if (← read).typed ∧ !isOptional then discard <| eatMark "!"
  let types ← optionalType r
  let value ← fieldValue r
  unless ← eatSemicolon do report (← place)
  let outline : Outline src := .group (key.outline :: value ++ types ++ head.decorators)
  if head.isAccessor then return head.member outline
  if isPrivate then
    if head.hasAccess then report head.start
  else if head.isAbstract ∧ !value.isEmpty then report head.start
  return { head.member outline with needsAbstract := head.isAbstract && !isPrivate }

/-- A constructor from behind its key on. Nothing is left of its decorators and of types that it
should not have. -/
def constructorRest (r : Rules src) (head : MemberHead src) (key : PropertyKey src) :
    Parser src (ClassMember src) := do
  let typed := (← read).typed
  if typed ∧ head.overrides then report head.start
  let typeParameters ← optionalTypeParameters r false true
  expectMark "("
  let parameters ← parameterList (constructorParameter r)
  expectMark ")"
  if typed ∧ (← isMark ":") then
    let result ← typeBehind r
    report result.start
  let body ← functionBody r false false (parameters.map (·.pattern))
  (typeParameters.flatMap Outline.parts).forM fun parameter => report parameter.start
  if body.isNone then
    (parameters.filter (·.isProperty)).forM fun p => report p.start
    (parameters.filter Parameter.isInitialized).forM fun p => report p.pattern.start
  head.staticAt.forM report
  if head.isAbstract then head.modifierAt.forM report
  let outline : Outline src :=
    .group (key.outline :: parameters.map Parameter.outline ++ body.toList)
  return { head.member outline with constructs := body.isSome }

def plainMethod (r : Rules src) (head : MemberHead src) (key : PropertyKey src) :
    Parser src (ClassMember src) := do
  if head.readonlyAt.isSome then refuse head.start
  if key.isConstructor then constructorRest r head key
  else methodRest r head (functionParameters r) false false key

/-- An asynchronous method from behind its `async` on, which may have a `?` behind it. -/
def asyncMethod (r : Rules src) (head : MemberHead src) (isOptional : Bool) :
    Parser src (ClassMember src) := do
  if (← modifier? ["override"]).isSome then report (← last).start
  let isGenerator ← eatMark "*"
  let key ← memberKey r
  if key.isConstructor then refuse key.start
  if head.readonlyAt.isSome then refuse head.start
  if (← read).typed ∧ !isOptional then discard <| eatMark "?"
  methodRest r head (functionParameters r) true isGenerator key

def accessor (r : Rules src) (head : MemberHead src) (isGetter : Bool) (start : Nat) :
    Parser src (ClassMember src) := do
  let key ← memberKey r
  if head.readonlyAt.isSome then report start
  if key.isConstructor then report start
  let parameters := if isGetter then getterParameters r start else setterParameters r start
  methodRest r head parameters false false key

def generatorMethod (r : Rules src) (head : MemberHead src) : Parser src (ClassMember src) := do
  let key ← memberKey r
  if head.readonlyAt.isSome then report head.start
  if key.isConstructor then report head.start
  methodRest r head (functionParameters r) false true key

/-- A member from its key on. `get`, `set` and `async` may be keys or not. -/
def keyedMember (r : Rules src) (head : MemberHead src) : Parser src (ClassMember src) := do
  let asKey : Option Nat ← if ← isMarkIn ["!", ":"] then pure head.readonlyAt else pure none
  let key ←
    match asKey with
    | some start => pure (⟨.word "readonly", start, .empty⟩ : PropertyKey src)
    | none => memberKey r
  let isOptional ← if (← read).typed then eatMark "?" else pure false
  if ← atMethod then return ← plainMethod r head key
  let generatorFollows : Bool := (← onNewLine) ∧ (← isMark "*")
  let isAccessor : Bool :=
    (key.word? = some "get" ∨ key.word? = some "set") ∧ !(← atField false) ∧ !generatorFollows
  if !isAccessor ∧ (← atField true) then return ← fieldRest r head isOptional key
  if key.word? = some "async" ∧ !(← onNewLine) then return ← asyncMethod r head isOptional
  if isAccessor then return ← accessor r head (key.word? = some "get") key.start
  unexpected

/-- A member that a word is the name of after all, though it could have been a modifier. -/
def namedByWord? (r : Rules src) (head : MemberHead src) (word : String) (start : Nat)
    (orLineBreak : Bool) : Parser src (Option (ClassMember src)) := do
  let key : PropertyKey src := ⟨.word word, start, .empty⟩
  if ← atMethod then return some (← methodRest r head (functionParameters r) false false key)
  let optional : Bool := (← read).typed ∧ (← isMark "?")
  unless optional ∨ (← atField orLineBreak) do return none
  let isOptional ← if optional then eatMark "?" else pure false
  return some (← fieldRest r head isOptional key)

def addModifier (head : MemberHead src) (word : String) : Parser src (MemberHead src) := do
  let place := (← last).start
  let head := { head with modifierAt := some place }
  match word with
  | "abstract" =>
    if head.isAbstract ∨ head.overrides then report place
    return { head with isAbstract := true }
  | "override" =>
    let fits := (← read).hasSuperclass ∧ !head.overrides ∧ head.readonlyAt.isNone ∧
      head.declareAt.isNone
    unless fits do report place
    return { head with overrides := true }
  | "readonly" =>
    if head.readonlyAt.isSome then report place
    return { head with readonlyAt := head.readonlyAt.or (some place) }
  | _ =>
    if head.overrides then report place
    return { head with isStatic := true }

def atStaticBlock : Parser src Bool := isWordBefore "static" (·.isMark "\x7b")

def memberModifiers (head : MemberHead src) : Parser src (MemberHead src) :=
  iterate (fun head => do
    if ← atStaticBlock then return none
    match ← modifier? ["abstract", "readonly", "override", "static"] with
    | none => return none
    | some word => return some (← addModifier head word)) head

def eatAccessor : Parser src Bool := do
  if (← read).typed then eatWord "accessor" else return false

def staticBlock (r : Rules src) (head : MemberHead src) : Parser src (ClassMember src) := do
  return head.member (← withReader ({ · with inField := true }) (block r))

/-- A static block, if one starts here. No other modifiers belong in front of it. -/
def staticBlock? (r : Rules src) (head : MemberHead src) :
    Parser src (Option (ClassMember src)) := do
  if head.isStatic ∧ (← isMark "\x7b") then
    head.declareAt.forM report
    if head.hasAccess then report (← place)
    return some (← staticBlock r head)
  unless ← atStaticBlock do return none
  head.modifierAt.forM report
  head.staticAt.forM report
  if head.hasAccess then report (← place)
  advance
  return some (← staticBlock r head)

def modifiedMember (r : Rules src) (head : MemberHead src) : Parser src (ClassMember src) := do
  let head ← memberModifiers head
  let isAccessor ← if head.isAccessor then pure true else eatAccessor
  let head := { head with isAccessor }
  if let some member ← staticBlock? r head then return member
  if (← read).typed ∧ !head.isAbstract ∧ !head.overrides ∧ !head.hasAccess then
    if let some found ← indexSignature? r then return head.member found
  if ← eatMark "*" then return ← generatorMethod r head
  keyedMember r head

/-- The place of the current word, if it is the given one. The word is passed over. -/
def eatWordAt (word : String) : Parser src (Option Nat) := do
  if ← eatWord word then return some (← last).start
  return none

def memberStart (r : Rules src) : Parser src (MemberHead src) := do
  let start ← place
  let decorators ← decorators r
  let typed := (← read).typed
  let early ← if typed then eatWordAt "declare" else pure none
  let hasAccess ← accessModifier
  let late ← if typed ∧ early.isNone then eatWordAt "declare" else pure none
  let declareAt ← if (early.or late).isSome then pure (some (← last).start) else pure none
  return ⟨start, decorators, declareAt, hasAccess, none, false, false, false, false, none, none⟩

def classMember (r : Rules src) : Parser src (ClassMember src) := do
  let head ← memberStart r
  if let some place := head.declareAt then
    let plain := { head with declareAt := none }
    if let some member ← namedByWord? r plain "declare" place true then return member
  let staticAt ← eatWordAt "static"
  let head := { head with staticAt, isStatic := staticAt.isSome }
  let isAccessor ← eatAccessor
  if isAccessor then
    if let some member ← namedByWord? r head "accessor" (← last).start true then return member
  let head := { head with isAccessor }
  if let some place := staticAt then
    let plain := { head with staticAt := none, isStatic := false }
    if let some member ← namedByWord? r plain "static" place false then return member
  modifiedMember r head

end Parser
end Phrasebook.Script
