import Phrasebook.Tree.Access

/-!
Whole-tree operations: merging, dropping empty subtrees and sorting.
-/
namespace Phrasebook.Tree

/-- Deep merge. Subtrees on both sides are merged, anything else is taken from `addition`; entries
of `t` keep their positions and new ones follow in their own order. -/
def merge (t addition : Tree) : Tree :=
  match addition with
  | .nil => t
  | .leaf key value rest => (t.put key (.leaf value)).merge rest
  | .branch key children rest =>
    match t.find? key with
    | some (.subtree mine) => (t.put key (.subtree (mine.merge children))).merge rest
    | _ => (t.put key (.subtree children)).merge rest

def pruneEmpty : Tree → Tree × Nat
  | .nil => (.nil, 0)
  | .leaf key value rest =>
    let (kept, removed) := rest.pruneEmpty
    (.leaf key value kept, removed)
  | .branch key children rest =>
    let (inner, below) := children.pruneEmpty
    let (kept, removed) := rest.pruneEmpty
    if inner.isEmpty then (kept, below + removed + 1)
    else (.branch key inner kept, below + removed)

def insertSorted (key : String) (node : Node) : Tree → Tree
  | .nil => cons key node .nil
  | .leaf k value rest =>
    if key ≤ k then cons key node (.leaf k value rest)
    else .leaf k value (rest.insertSorted key node)
  | .branch k children rest =>
    if key ≤ k then cons key node (.branch k children rest)
    else .branch k children (rest.insertSorted key node)

/-- Keys in code point order at every level. Plural forms keep their own order. -/
def sorted : Tree → Tree
  | .nil => .nil
  | .leaf key value rest => rest.sorted.insertSorted key (.leaf value)
  | .branch key children rest => rest.sorted.insertSorted key (.subtree children.sorted)

end Phrasebook.Tree
