import Phrasebook.Tree.Flat
import Phrasebook.Tree.Leaves

/-!
Removing the phrases of a locale that the canonical tree does not define. The locale may be nested
or flat, and stays what it is.
-/
namespace Phrasebook

/-- The keys of a canonical tree: the joined paths of its leaves, and the first segments of these
paths. -/
structure CanonicalKeys where
  paths : List String
  bases : List String
  deriving DecidableEq, Repr

def CanonicalKeys.ofTree (separator : String) (canonical : Tree) : CanonicalKeys :=
  let leaves := (canonical.expandFlat separator).1.leaves
  { paths := leaves.map fun (path, _) => KeyPath.join separator path
    bases := leaves.filterMap fun (path, _) => path.head? }

/-- What is left of a tree, and the joined keys of the phrases that were removed. -/
structure Pruned where
  tree : Tree
  removed : List String
  deriving DecidableEq, Repr

namespace Tree

/-- Removes the leaves below `trail` that are not canonical, and the subtrees this empties. -/
def pruneBelow (keys : CanonicalKeys) (separator : String) (trail : KeyPath) : Tree → Pruned
  | .nil => ⟨.nil, []⟩
  | .leaf key value rest =>
    let path := KeyPath.join separator (trail.child key)
    let after := rest.pruneBelow keys separator trail
    if path ∈ keys.paths then ⟨.leaf key value after.tree, after.removed⟩
    else ⟨after.tree, path :: after.removed⟩
  | .branch key children rest =>
    let inner := children.pruneBelow keys separator (trail.child key)
    let after := rest.pruneBelow keys separator trail
    let removed := inner.removed ++ after.removed
    if inner.tree.isEmpty ∧ !inner.removed.isEmpty then ⟨after.tree, removed⟩
    else ⟨.branch key inner.tree after.tree, removed⟩

def joinedBases (separator : String) (t : Tree) : List String :=
  (t.keys.filter (isJoined separator)).map (KeyPath.baseKey separator)

def pruneEntry (keys : CanonicalKeys) (separator : String) (bases : List String) (key : String)
    (node : Node) : Pruned :=
  let entry := cons key node .nil
  if isJoined separator key then
    if KeyPath.baseKey separator key ∈ keys.bases then ⟨entry, []⟩ else ⟨.nil, [key]⟩
  else if node.kind = .phrase ∧ key ∈ bases then ⟨.nil, [key]⟩
  else entry.pruneBelow keys separator []

/-- Joined keys are kept by their base key, nested ones by their path. A plain leaf with joined
variants beside it is removed in any case. -/
def prune (keys : CanonicalKeys) (separator : String) (locale : Tree) : Pruned :=
  let bases := locale.joinedBases separator
  let parts := locale.entries.map fun (key, node) => pruneEntry keys separator bases key node
  { tree := ofEntries (parts.flatMap (·.tree.entries))
    removed := parts.flatMap (·.removed) }

end Tree
end Phrasebook
