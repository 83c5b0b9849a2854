import Phrasebook.Tree.Flat

/-!
Moving or copying a key to another place in a phrase tree.
-/
namespace Phrasebook

inductive DuplicatePolicy where
  | forbid
  | allow
  deriving DecidableEq, Repr

structure Rekey where
  oldKey : String
  newKey : String
  separator : String
  copy : Bool
  policy : DuplicatePolicy
  deriving DecidableEq, Repr

inductive RekeyError where
  | keyNotFound (key : String)
  | keyAlreadyExists (key : String)
  | sameKey (key : String)
  | collision (oldKey newKey : String) (cause : PathError)
  deriving DecidableEq, Repr

def RekeyError.message : RekeyError → String
  | .keyNotFound key => s!"key \"{key}\" not found"
  | .keyAlreadyExists key =>
    s!"key \"{key}\" already exists (use --allow-existing to overwrite it)"
  | .sameKey key => s!"old and new key are both \"{key}\""
  | .collision oldKey newKey _ => s!"cannot move \"{oldKey}\" to \"{newKey}\""

def RekeyError.cause? : RekeyError → Option PathError
  | .collision _ _ cause => some cause
  | _ => none

inductive RekeyOutcome where
  | moved (tree : Tree)
  /-- The tree does not hold the old key. -/
  | skipped
  deriving DecidableEq, Repr

inductive RekeyStatus where
  | moved
  /-- The tree does not hold the old key. -/
  | skipped
  deriving DecidableEq, Repr

namespace Rekey

def old (r : Rekey) : KeyPath := KeyPath.parse r.separator r.oldKey

def new (r : Rekey) : KeyPath := KeyPath.parse r.separator r.newKey

def check (r : Rekey) (canonical : Tree) : Except RekeyError Unit :=
  if r.old = r.new then .error (.sameKey r.oldKey)
  else if (canonical.get? r.old).isNone then .error (.keyNotFound r.oldKey)
  else if r.policy = .forbid ∧ (canonical.get? r.new).isSome then
    .error (.keyAlreadyExists r.newKey)
  else .ok ()

/-- Moves the node of the old key. It is stored at the new key before the old one is removed. -/
def apply (r : Rekey) (tree : Tree) : Except RekeyError RekeyOutcome :=
  match tree.get? r.old with
  | none => .ok .skipped
  | some node =>
    match tree.set r.new node with
    | .error cause => .error (.collision r.oldKey r.newKey cause)
    | .ok written => .ok (.moved (if r.copy then written else written.unset r.old))

/-- Moves the node of the old key in a tree that is changed in place: what was done, and the tree
after it. -/
def applyInPlace (r : Rekey) (tree : Tree) : Except RekeyError RekeyStatus × Tree :=
  match tree.get? r.old with
  | none => (.ok .skipped, tree)
  | some node =>
    match tree.store r.new node with
    | (.error cause, after) => (.error (.collision r.oldKey r.newKey cause), after)
    | (.ok _, after) => (.ok .moved, if r.copy then after else after.unset r.old)

def applyLocale (r : Rekey) (locale : Tree) : Except RekeyError RekeyOutcome :=
  r.apply (locale.expandFlat r.separator).1

end Rekey
end Phrasebook
