import Mathlib.Data.List.Nodup
import Phrasebook.Proofs.Tree.Leafy
import Phrasebook.Proofs.Tree.Trimming
import Phrasebook.Tree.Merge

/-!
Dropping hollow subtrees, those in which there is no leaf. Each of them goes and is counted once,
however deep it lies, and nothing else changes.
-/
namespace Phrasebook

def Node.filled? : Node → Option Node
  | .leaf value => some (.leaf value)
  | .subtree children =>
    if children.leaves = [] then none else some (.subtree children.pruneEmpty.1)

namespace Tree

variable {t : Tree} {path : KeyPath}

/-- A tree in which every subtree has a leaf has one itself, unless it is empty. -/
theorem Leafy.leaves_eq_nil_iff (h : t.Leafy) : t.leaves = [] ↔ t = .nil := by
  cases t with
  | nil => exact iff_of_true rfl rfl
  | leaf key value rest => simp
  | branch key children rest => simp [h.1]

theorem leaves_pruneEmpty (t : Tree) : t.pruneEmpty.1.leaves = t.leaves := by
  induction t with
  | nil => rfl
  | leaf key value rest ih => rw [pruneEmpty, leaves_leaf, leaves_leaf, ih]
  | branch key children rest ihc ihr =>
    simp only [pruneEmpty]
    split_ifs with hempty
    · have hnone : children.leaves = [] := by
        rw [← ihc, isEmpty_iff.mp hempty]
        rfl
      rw [ihr, leaves_branch, hnone, List.map_nil, List.nil_append]
    · rw [leaves_branch, leaves_branch, ihc, ihr]

theorem leafy_pruneEmpty (t : Tree) : t.pruneEmpty.1.Leafy := by
  induction t with
  | nil => trivial
  | leaf key value rest ih => exact ih
  | branch key children rest ihc ihr =>
    simp only [pruneEmpty]
    split_ifs with hempty
    · exact ihr
    · exact ⟨fun hnone => hempty (isEmpty_iff.mpr (ihc.leaves_eq_nil_iff.mp hnone)), ihc, ihr⟩

/-- Nothing is left of a tree exactly when it has no leaf. -/
theorem isEmpty_pruneEmpty (t : Tree) : t.pruneEmpty.1.isEmpty ↔ t.leaves = [] := by
  rw [isEmpty_iff, ← (leafy_pruneEmpty t).leaves_eq_nil_iff, leaves_pruneEmpty]

theorem trimmed_pruneEmpty (t : Tree) : t.pruneEmpty.1.Trimmed t := by
  induction t with
  | nil => exact .nil
  | leaf key value rest ih => exact .leaf key value ih
  | branch key children rest ihc ihr =>
    simp only [pruneEmpty]
    split_ifs with hempty
    · exact .skipBranch key children ihr
    · exact .branch key ihc ihr

theorem entries_pruneEmpty (t : Tree) :
    t.pruneEmpty.1.entries = keepEntries (fun _ => Node.filled?) t.entries := by
  induction t with
  | nil => rfl
  | leaf key value rest ih =>
    rw [pruneEmpty, entries, entries, keepEntries_cons, ← ih]
    rfl
  | branch key children rest _ ih =>
    rw [entries, keepEntries_cons, ← ih, Node.filled?]
    simp only [pruneEmpty, isEmpty_pruneEmpty]
    split_ifs <;> rfl

/-- A path leads to what is left of the node there. -/
theorem get?_pruneEmpty (ht : t.WellFormed) (path : KeyPath) :
    t.pruneEmpty.1.get? path = (t.get? path).bind Node.filled? := by
  refine get?_of_kept (fun _ t => t.pruneEmpty.1) (fun _ => Node.filled?)
    (fun _ t ht key => ?_) (fun _ value => .inr rfl) (fun _ children => ?_) ht [] path
  · rw [find?_eq_lookup, find?_eq_lookup, entries_pruneEmpty]
    exact lookup_keepEntries (fun _ => Node.filled?) ht.nodup_keys key
  · rw [Node.filled?]
    split_ifs with hnone
    · exact .inr ⟨rfl, isEmpty_iff.mp ((isEmpty_pruneEmpty children).mpr hnone)⟩
    · exact .inl rfl

/-- Where every subtree has a leaf there is nothing to drop. -/
theorem Leafy.pruneEmpty_eq (h : t.Leafy) : t.pruneEmpty = (t, 0) := by
  induction t with
  | nil => rfl
  | leaf key value rest ih => rw [pruneEmpty, ih h]
  | branch key children rest ihc ihr =>
    obtain ⟨hsome, hchildren, hrest⟩ := h
    have hfull : ¬children.isEmpty := fun hempty =>
      hsome (hchildren.leaves_eq_nil_iff.mpr (isEmpty_iff.mp hempty))
    simp [pruneEmpty, ihc hchildren, ihr hrest, hfull]

/-- Whether a path leads to a subtree without a leaf. -/
def HollowAt (t : Tree) (path : KeyPath) : Prop :=
  ∃ children, t.get? path = some (.subtree children) ∧ children.leaves = []

theorem get?_pruneEmpty_eq_none_iff (ht : t.WellFormed) :
    t.pruneEmpty.1.get? path = none ↔ t.get? path = none ∨ t.HollowAt path := by
  rw [get?_pruneEmpty ht, HollowAt]
  cases hget : t.get? path with
  | none => simp
  | some node =>
    cases node with
    | leaf value => simp [Node.filled?]
    | subtree children => simp [Node.filled?]

theorem hollowAt_cons_iff {key : String} {rest : Tree} (hkey : key ∉ rest.keys) (node : Node)
    (path : KeyPath) :
    (cons key node rest).HollowAt path ↔
      (∃ children below, node = .subtree children ∧ path = key :: below ∧
        (below = [] ∧ children.leaves = [] ∨ children.HollowAt below)) ∨ rest.HollowAt path := by
  constructor
  · rintro ⟨inner, hget, hnone⟩
    cases path with
    | nil => cases node <;> cases hget
    | cons k below =>
      rw [get?_cons] at hget
      split_ifs at hget with hk hbelow
      · subst hk hbelow
        cases hget
        exact .inl ⟨inner, [], rfl, rfl, .inl ⟨rfl, hnone⟩⟩
      · subst hk
        cases node with
        | leaf value => cases hget
        | subtree children => exact .inl ⟨children, below, rfl, rfl, .inr ⟨inner, hget, hnone⟩⟩
      · exact .inr ⟨inner, hget, hnone⟩
  · rintro (⟨children, below, rfl, rfl, ⟨rfl, hnone⟩ | ⟨inner, hget, hnone⟩⟩ | ⟨inner, hget, hnone⟩)
    · exact ⟨children, by rw [get?_cons, if_pos rfl, if_pos rfl], hnone⟩
    · refine ⟨inner, ?_, hnone⟩
      rw [get?_cons, if_pos rfl, if_neg (ne_nil_of_get? hget)]
      exact hget
    · exact ⟨inner, get?_of_notMem_cons hkey node hget, hnone⟩

theorem HollowAt.exists_key (h : t.HollowAt path) :
    ∃ key below, path = key :: below ∧ key ∈ t.keys := by
  obtain ⟨children, hget, -⟩ := h
  have hspot := spot?_of_get? hget
  cases path with
  | nil => cases hget
  | cons key below =>
    obtain ⟨node, hfind, -⟩ := Option.bind_eq_some_iff.mp ((spot?_cons t key below) ▸ hspot)
    refine ⟨key, below, rfl, ?_⟩
    rw [mem_keys_iff, hfind]
    rfl

def hollowPaths : Tree → List KeyPath
  | .nil => []
  | .leaf _ _ rest => rest.hollowPaths
  | .branch key children rest =>
    ((if children.leaves = [] then [[]] else []) ++ children.hollowPaths).map (key :: ·) ++
      rest.hollowPaths

theorem length_hollowPaths (t : Tree) : t.hollowPaths.length = t.pruneEmpty.2 := by
  induction t with
  | nil => rfl
  | leaf key value rest ih => exact ih
  | branch key children rest ihc ihr =>
    simp only [hollowPaths, pruneEmpty, isEmpty_pruneEmpty, List.length_append, List.length_map,
      ihc, ihr]
    split_ifs
    · simp only [List.length_singleton]
      omega
    · simp

theorem mem_hollowPaths (ht : t.WellFormed) : path ∈ t.hollowPaths ↔ t.HollowAt path := by
  induction t generalizing path with
  | nil =>
    refine iff_of_false List.not_mem_nil fun h => ?_
    obtain ⟨key, below, -, hkey⟩ := h.exists_key
    cases hkey
  | leaf key value rest ih =>
    have hcons := hollowAt_cons_iff ht.1 (.leaf value) path
    rw [cons] at hcons
    rw [hcons, hollowPaths, ih ht.2.2]
    simp
  | branch key children rest ihc ihr =>
    have hcons := hollowAt_cons_iff ht.1 (.subtree children) path
    rw [cons] at hcons
    rw [hcons, hollowPaths, List.mem_append, ihr ht.2.2, List.mem_map]
    refine or_congr_left ?_
    have hown (below : KeyPath) :
        below ∈ (if children.leaves = [] then [[]] else []) ++ children.hollowPaths ↔
          below = [] ∧ children.leaves = [] ∨ children.HollowAt below := by
      rw [List.mem_append, ihc ht.2.1]
      split_ifs with hnone <;> simp [hnone]
    simp only [hown]
    constructor
    · rintro ⟨below, hbelow, rfl⟩
      exact ⟨children, below, rfl, rfl, hbelow⟩
    · rintro ⟨inner, below, heq, rfl, hbelow⟩
      cases heq
      exact ⟨below, hbelow, rfl⟩

theorem nodup_hollowPaths (ht : t.WellFormed) : t.hollowPaths.Nodup := by
  induction t with
  | nil => exact List.nodup_nil
  | leaf key value rest ih => exact ih ht.2.2
  | branch key children rest ihc ihr =>
    have hself : [] ∉ children.hollowPaths := by
      intro hmem
      obtain ⟨k, below, heq, -⟩ := ((mem_hollowPaths ht.2.1).mp hmem).exists_key
      cases heq
    have hown : ((if children.leaves = [] then [[]] else []) ++ children.hollowPaths).Nodup := by
      split_ifs
      · exact List.nodup_cons.mpr ⟨hself, ihc ht.2.1⟩
      · exact ihc ht.2.1
    refine List.nodup_append.mpr
      ⟨List.Nodup.map (fun p q h => (List.cons.inj h).2) hown, ihr ht.2.2, ?_⟩
    rintro p hp q hq rfl
    obtain ⟨below, -, rfl⟩ := List.mem_map.mp hp
    obtain ⟨k, after, heq, hk⟩ := ((mem_hollowPaths ht.2.2).mp hq).exists_key
    cases heq
    exact ht.1 hk

/-- Dropping empty subtrees keeps the leaves with their order, and no subtree that is left is empty.
Gone are exactly the subtrees without a leaf, all of which are counted, and a second time there is
nothing to drop. -/
theorem pruneEmpty_drops_hollow (ht : t.WellFormed) :
    let kept := t.pruneEmpty.1
    let removed := t.pruneEmpty.2
    kept.leaves = t.leaves ∧ kept.Trimmed t ∧
      (∀ path children, kept.get? path = some (.subtree children) → children ≠ .nil) ∧
      (∀ path, kept.get? path = none ↔ t.get? path = none ∨ t.HollowAt path) ∧
      (∃ paths : List KeyPath, paths.Nodup ∧ (∀ path, path ∈ paths ↔ t.HollowAt path) ∧
        removed = paths.length) ∧
      kept.pruneEmpty = (kept, 0) := by
  intro kept removed
  have hkept : kept.WellFormed := (trimmed_pruneEmpty t).wellFormed ht
  refine ⟨leaves_pruneEmpty t, trimmed_pruneEmpty t, fun path children hget hnil => ?_,
    fun path => get?_pruneEmpty_eq_none_iff ht,
    ⟨t.hollowPaths, nodup_hollowPaths ht, fun path => mem_hollowPaths ht,
      (length_hollowPaths t).symm⟩,
    (leafy_pruneEmpty t).pruneEmpty_eq⟩
  have hsome := (leafy_iff hkept).mp (leafy_pruneEmpty t) path children hget
  rw [hnil] at hsome
  exact hsome rfl

/-- A subtree that is empty only once the two below it are gone, beside one that keeps a leaf. -/
theorem nested_hollow_dropped :
    let t : Tree := .branch "a" (.branch "b" .nil (.branch "c" (.branch "d" .nil .nil) .nil))
      (.branch "e" (.leaf "x" (.text "1") (.branch "f" .nil .nil)) .nil)
    let kept : Tree := .branch "e" (.leaf "x" (.text "1") .nil) .nil
    t.WellFormed ∧ t.pruneEmpty = (kept, 5) ∧ kept.leaves = t.leaves ∧
      kept.pruneEmpty = (kept, 0) ∧
      ∃ paths : List KeyPath, paths.Nodup ∧ (∀ path, path ∈ paths ↔ t.HollowAt path) ∧
        5 = paths.length := by
  intro t kept
  have ht : t.WellFormed := by simp [t, WellFormed, keys, entries, Phrase.WellFormed]
  have hprune : t.pruneEmpty = (kept, 5) := by decide
  obtain ⟨hleaves, -, -, -, hpaths, hagain⟩ := pruneEmpty_drops_hollow ht
  rw [hprune] at hleaves hpaths hagain
  exact ⟨ht, hprune, hleaves, hagain, hpaths⟩

end Tree
end Phrasebook
