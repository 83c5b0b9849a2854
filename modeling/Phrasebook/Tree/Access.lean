import Phrasebook.KeyPath
import Phrasebook.Tree.Basic

/-!
Reading and writing tree nodes by key path, with a new tree as the result or in place.
-/
namespace Phrasebook

inductive PathError where
  | emptyPath
  | collision (path : KeyPath) (segment : String) (found : NodeKind)
  deriving DecidableEq, Repr

def PathError.message : PathError → String
  | .emptyPath => "empty key path"
  | .collision _ segment found =>
    s!"key path collides with an existing {found.describe} at segment \"{segment}\""

namespace Tree

/-- The node at a path. Leaves have no descendants, and the empty path addresses nothing. -/
def get? (t : Tree) : KeyPath → Option Node
  | [] => none
  | [key] => t.find? key
  | key :: path =>
    match t.find? key with
    | some (.subtree children) => children.get? path
    | _ => none

def getLeaf? (t : Tree) (path : KeyPath) : Option Phrase :=
  (t.get? path).bind Node.leaf?

/-- Where and with what a write at a path collides: a leaf on the way, or a node of the other kind
at its end. -/
def collision? (t : Tree) (kind : NodeKind) : KeyPath → Option (String × NodeKind)
  | [] => none
  | [key] =>
    match t.find? key with
    | some node => if node.kind = kind then none else some (key, node.kind)
    | none => none
  | key :: path =>
    match t.find? key with
    | some (.subtree children) => children.collision? kind path
    | some (.leaf _) => some (key, .phrase)
    | none => none

/-- The tree with `node` at a path, creating the subtrees that are missing on the way. -/
def place (t : Tree) (node : Node) : KeyPath → Tree
  | [] => t
  | [key] => t.put key node
  | key :: path =>
    match t.find? key with
    | some (.subtree children) => t.put key (.subtree (children.place node path))
    | _ => t.put key (.subtree (Tree.nil.place node path))

def set (t : Tree) (path : KeyPath) (node : Node) : Except PathError Tree :=
  match path with
  | [] => .error .emptyPath
  | _ =>
    match t.collision? node.kind path with
    | some (segment, found) => .error (.collision path segment found)
    | none => .ok (t.place node path)

/-- Stores `node` along the rest of the path `whole`, in a tree that is changed on the way down: what
has been created before a failure stays. Answers the node that was in the place. -/
def storeAlong (whole : KeyPath) (node : Node) (t : Tree) :
    KeyPath → Except PathError (Option Node) × Tree
  | [] => (.error .emptyPath, t)
  | [key] =>
    match t.find? key with
    | some found =>
      if found.kind = node.kind then (.ok (some found), t.put key node)
      else (.error (.collision whole key found.kind), t)
    | none => (.ok none, t.put key node)
  | key :: path =>
    match t.find? key with
    | some (.leaf _) => (.error (.collision whole key .phrase), t)
    | some (.subtree children) =>
      let below := children.storeAlong whole node path
      (below.1, t.put key (.subtree below.2))
    | none =>
      let below := Tree.nil.storeAlong whole node path
      (below.1, t.put key (.subtree below.2))

/-- Stores `node` at `path` in place: the node that was there or the error, and the tree after it. -/
def store (t : Tree) (path : KeyPath) (node : Node) : Except PathError (Option Node) × Tree :=
  t.storeAlong path node path

/-- Removes the node at a path. Its ancestors stay, even when they become empty. -/
def unset (t : Tree) : KeyPath → Tree
  | [] => t
  | [key] => t.erase key
  | key :: path =>
    match t.find? key with
    | some (.subtree children) => t.put key (.subtree (children.unset path))
    | _ => t

/-- Removes the node at a path in place: the node that was there, if any, and the tree after it. -/
def remove (t : Tree) : KeyPath → Option Node × Tree
  | [] => (none, t)
  | [key] => (t.find? key, t.erase key)
  | key :: path =>
    match t.find? key with
    | some (.subtree children) =>
      let below := children.remove path
      (below.1, t.put key (.subtree below.2))
    | _ => (none, t)

end Tree
end Phrasebook
