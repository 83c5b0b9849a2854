import Phrasebook.Proofs.Tree.Removal

/-!
The leaves below a path, and trees in which no subtree is without any.
-/
namespace Phrasebook.Tree

theorem leavesBelow_eq_map (t : Tree) (trail : KeyPath) :
    t.leavesBelow trail = t.leaves.map fun leaf => (trail ++ leaf.1, leaf.2) := by
  induction t generalizing trail with
  | nil => rfl
  | leaf key value rest ih =>
    simp only [leavesBelow, leaves, List.map_cons, KeyPath.child, List.nil_append]
    rw [ih, ih []]
    simp [leaves]
  | branch key children rest ihc ihr =>
    simp only [leavesBelow, leaves, List.map_append, KeyPath.child, List.nil_append]
    rw [ihc, ihr, ihc [key], ihr []]
    simp [leaves]

@[simp] theorem leaves_leaf (key : String) (value : Phrase) (rest : Tree) :
    (leaf key value rest).leaves = ([key], value) :: rest.leaves := rfl

@[simp] theorem leaves_branch (key : String) (children rest : Tree) :
    (branch key children rest).leaves =
      (children.leaves.map fun leaf => (key :: leaf.1, leaf.2)) ++ rest.leaves := by
  rw [leaves, leavesBelow, leavesBelow_eq_map]
  rfl

def entryLeaves (entry : String × Node) : List (KeyPath × Phrase) :=
  (cons entry.1 entry.2 .nil).leaves

@[simp] theorem entryLeaves_leaf (key : String) (value : Phrase) :
    entryLeaves (key, .leaf value) = [([key], value)] := rfl

@[simp] theorem entryLeaves_subtree (key : String) (children : Tree) :
    entryLeaves (key, .subtree children) =
      children.leaves.map fun leaf => (key :: leaf.1, leaf.2) := by
  rw [entryLeaves, cons, leaves_branch]
  exact List.append_nil _

theorem leaves_eq_flatMap (t : Tree) : t.leaves = t.entries.flatMap entryLeaves := by
  induction t with
  | nil => rfl
  | leaf key value rest ih =>
    rw [leaves_leaf, entries, List.flatMap_cons, entryLeaves_leaf, List.singleton_append, ih]
  | branch key children rest _ ih =>
    rw [leaves_branch, entries, List.flatMap_cons, entryLeaves_subtree, ih]

theorem ne_nil_of_mem_leaves {t : Tree} {leaf : KeyPath × Phrase} (h : leaf ∈ t.leaves) :
    leaf.1 ≠ [] := by
  induction t with
  | nil => cases h
  | leaf key value rest ih =>
    rw [leaves_leaf, List.mem_cons] at h
    obtain rfl | hrest := h
    · exact List.cons_ne_nil key []
    · exact ih hrest
  | branch key children rest _ ih =>
    rw [leaves_branch, List.mem_append, List.mem_map] at h
    obtain ⟨inner, -, rfl⟩ | hrest := h
    · exact List.cons_ne_nil key inner.1
    · exact ih hrest

/-- Only a leaf has the path of its entry; what a subtree holds has a longer one. -/
theorem path_of_mem_entryLeaves {key : String} {node : Node} {leaf : KeyPath × Phrase}
    (h : leaf ∈ entryLeaves (key, node)) :
    ∃ path, leaf.1 = key :: path ∧ (path = [] ↔ node.kind = .phrase) := by
  cases node with
  | leaf value =>
    rw [entryLeaves_leaf, List.mem_singleton] at h
    subst h
    exact ⟨[], rfl, iff_of_true rfl rfl⟩
  | subtree children =>
    rw [entryLeaves_subtree, List.mem_map] at h
    obtain ⟨inner, hinner, rfl⟩ := h
    exact ⟨inner.1, rfl, iff_of_false (ne_nil_of_mem_leaves hinner) (by simp [Node.kind])⟩

theorem get?_cons (key k : String) (node : Node) (rest : Tree) (path : KeyPath) :
    (cons key node rest).get? (k :: path) =
      if key = k then if path = [] then some node else node.get? path
      else rest.get? (k :: path) := by
  cases path with
  | nil => simp [get?]
  | cons next path =>
    rw [get?_cons_cons, get?_cons_cons, find?_cons]
    split_ifs with hk hnil
    · cases hnil
    · cases node <;> rfl
    · rfl

/-- Whether there is a leaf in every subtree. -/
def Leafy : Tree → Prop
  | .nil => True
  | .leaf _ _ rest => rest.Leafy
  | .branch _ children rest => children.leaves ≠ [] ∧ children.Leafy ∧ rest.Leafy

theorem get?_of_notMem_cons {key : String} {rest : Tree} {path : KeyPath} {found : Node}
    (hkey : key ∉ rest.keys) (node : Node) (h : rest.get? path = some found) :
    (cons key node rest).get? path = some found := by
  cases path with
  | nil => cases h
  | cons k path =>
    have hk : key ≠ k := by
      rintro rfl
      cases path with
      | nil => simp [get?, find?_eq_none hkey] at h
      | cons next path => simp [get?_cons_cons, find?_eq_none hkey] at h
    rw [get?_cons, if_neg hk, h]

theorem leafy_iff {t : Tree} (ht : t.WellFormed) :
    t.Leafy ↔ ∀ path children, t.get? path = some (.subtree children) → children.leaves ≠ [] := by
  induction t with
  | nil =>
    refine iff_of_true trivial fun path children h => ?_
    rcases path with _ | ⟨key, _ | ⟨next, path⟩⟩ <;> cases h
  | leaf key value rest ih =>
    rw [Leafy, ih ht.2.2]
    constructor
    · intro hrest path children h
      cases path with
      | nil => cases h
      | cons k path =>
        have hget := get?_cons key k (.leaf value) rest path
        rw [cons, h] at hget
        split_ifs at hget with hk hpath
        · cases hget
        · cases hget
        · exact hrest _ _ hget.symm
    · intro hall path children h
      exact hall path children (get?_of_notMem_cons ht.1 (.leaf value) h)
  | branch key inner rest ihc ihr =>
    rw [Leafy, ihc ht.2.1, ihr ht.2.2]
    constructor
    · rintro ⟨hinner, hbelow, hrest⟩ path children h
      cases path with
      | nil => cases h
      | cons k path =>
        have hget := get?_cons key k (.subtree inner) rest path
        rw [cons, h] at hget
        split_ifs at hget with hk hpath
        · cases hget
          exact hinner
        · exact hbelow _ _ hget.symm
        · exact hrest _ _ hget.symm
    · intro hall
      refine ⟨hall [key] inner (by simp [get?, find?]), fun path children h => ?_,
        fun path children h => ?_⟩
      · have hpath : path ≠ [] := ne_nil_of_get? h
        apply hall (key :: path) children
        have hget := get?_cons key key (.subtree inner) rest path
        rwa [if_pos rfl, if_neg hpath, Node.get?, h] at hget
      · exact hall path children (get?_of_notMem_cons ht.1 (.subtree inner) h)

/-- In terms of spots: below every inner one there is a leaf. -/
theorem leafy_iff_spot {t : Tree} (ht : t.WellFormed) :
    t.Leafy ↔ ∀ path names, path ≠ [] → t.spot? path = some (.inner names) →
      ∃ rest value, t.spot? (path ++ rest) = some (.leaf value) := by
  rw [leafy_iff ht]
  constructor
  · intro hall path names hpath hspot
    obtain ⟨node, hget, hnode⟩ := exists_get?_of_spot? hpath hspot
    cases node with
    | leaf value => cases hnode
    | subtree children =>
      obtain ⟨⟨rest, value⟩, hleaf⟩ := List.exists_mem_of_ne_nil _ (hall path children hget)
      have hvalue := spot?_of_mem_leaves (t := children) (ht.get? hget) hleaf
      exact ⟨rest, value, (spot?_append hget rest).trans hvalue⟩
  · intro hall path children hget
    have hpath : path ≠ [] := ne_nil_of_get? hget
    obtain ⟨rest, value, hvalue⟩ := hall path children.keys hpath (spot?_of_get? hget)
    rw [spot?_append hget] at hvalue
    exact List.ne_nil_of_mem (mem_leavesBelow_of_spot? hvalue [])

end Phrasebook.Tree
