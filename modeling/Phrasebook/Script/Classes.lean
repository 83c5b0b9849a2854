import Phrasebook.Script.Members

/-!
Classes. The outline of a class has its body before its superclass.
-/
namespace Phrasebook.Script.Parser

variable {src : Source}

/-- The members of a class up to its closing brace. It has one constructor with a body. -/
def classMembers (r : Rules src) : Parser src (List (ClassMember src)) := do
  let (_, found) ← iterate (fun (constructed, found) => do
    if (← isMark "\x7d") ∨ (← atEnd) then return none
    if ← eatMark ";" then return some (constructed, found)
    let member ← withReader ({ · with allowsSuper := true }) (classMember r)
    if constructed ∧ member.constructs then report member.start
    return some (constructed || member.constructs, member :: found)) (false, [])
  return found.reverse

def heritageElement (r : Rules src) : Parser src (Outline src) := do
  let start ← place
  let target ← links r true true (← anyWord)
  let isNamed : Bool :=
    match target.form with
    | .name _ | .member | .cast .instantiation => true
    | _ => false
  unless isNamed do report start
  unless ← isMark "<" do return target
  return .group [target, ← typeArguments r]

def heritage (r : Rules src) : Parser src (List (Outline src)) :=
  typeList (return (← isMark "\x7b") ∨ (← isWord "implements") ∨ (← isWord "extends"))
    (heritageElement r)

structure Superclass (src : Source) where
  value : Outline src
  types : List (Outline src)

def superclass (r : Rules src) : Parser src (Superclass src) := do
  let value ← r.callee
  match value with
  | .node (.cast .instantiation) _ [inner, types] _ => return ⟨inner, [types]⟩
  | _ =>
    unless (← read).typed ∧ (← isMark "<") do return ⟨value, []⟩
    return ⟨value, [← typeArguments r]⟩

/-- The superclass of a class and what else is said to be one: more classes behind commas where types
are written, or a second `extends`. Both are harmless faults. -/
def extended (r : Rules src) : Parser src (Option (Superclass src)) := do
  let first ←
    if ← eatWord "extends" then
      let found ← superclass r
      let continues ← if (← read).typed then eatMark "," else pure false
      if continues then (← heritage r).forM fun element => report element.start
      pure (some found)
    else pure none
  if ← eatWord "extends" then
    report (← last).start
    discard <| superclass r
  return first

/-- `implements` with its interfaces, and what may be mistaken to follow them: `implements` once
more, or a late `extends`. -/
def implemented (r : Rules src) (found : Option (Superclass src)) :
    Parser src (List (Outline src) × Option (Superclass src)) := do
  let typed := (← read).typed
  let interfaces ← if typed ∧ (← isWord "implements") then advance; heritage r else pure []
  if typed ∧ (← isWord "implements") then
    advance
    report (← last).start
    discard <| heritage r
  if ← eatWord "extends" then
    report (← last).start
    let late ← superclass r
    return (interfaces, found.or (some late))
  return (interfaces, found)

def className (needsName : Bool) : Parser src Unit := do
  let name ← if needsName then some <$> bindingName true else bindingName? true
  let isTaken (found : Outline src) : Bool := found.name?.any (· ∈ builtinTypes)
  if (← read).typed then
    (name.filter isTaken).forM fun found => report found.start

def classRest (r : Rules src) (decorators : List (Outline src)) (isAbstract needsName : Bool)
    (start : Nat) : Parser src (Outline src) := do
  let (outline, members) ← withReader ({ · with inClass := true }) do
    expectWord "class"
    className needsName
    let typeParameters ← optionalTypeParameters r true true
    let (interfaces, base) ← implemented r (← extended r)
    expectMark "\x7b"
    let members ← withReader ({ · with hasSuperclass := base.isSome }) (classMembers r)
    if ← atEnd then report (← place) else expectMark "\x7d"
    let values := base.toList.map (·.value)
    let types := base.toList.flatMap (·.types)
    let parts :=
      decorators ++ members.map (·.outline) ++ values ++ typeParameters ++ types ++ interfaces
    return (Outline.node .classExpr start parts, members)
  unless isAbstract do
    (members.filter (·.needsAbstract)).forM fun member => report member.start
  return outline

end Phrasebook.Script.Parser
