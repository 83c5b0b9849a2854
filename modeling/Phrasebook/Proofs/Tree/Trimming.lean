import Mathlib.Data.List.Induction
import Phrasebook.Proofs.Tree.Entries

/-!
Trees with some entries left out. What stays keeps its place, its value and its order, so it keeps
the shape that files can hold.
-/
namespace Phrasebook.Tree

/-- Whether a tree is another one with some entries left out, at any level. -/
inductive Trimmed : Tree → Tree → Prop
  | nil : Trimmed .nil .nil
  | leaf (key : String) (value : Phrase) {s t : Tree} (h : Trimmed s t) :
    Trimmed (.leaf key value s) (.leaf key value t)
  | branch (key : String) {inner children s t : Tree} (hinner : Trimmed inner children)
    (h : Trimmed s t) : Trimmed (.branch key inner s) (.branch key children t)
  | skipLeaf (key : String) (value : Phrase) {s t : Tree} (h : Trimmed s t) :
    Trimmed s (.leaf key value t)
  | skipBranch (key : String) (children : Tree) {s t : Tree} (h : Trimmed s t) :
    Trimmed s (.branch key children t)

namespace Trimmed

variable {s t : Tree}

theorem refl (t : Tree) : t.Trimmed t := by
  induction t with
  | nil => exact .nil
  | leaf key value rest ih => exact .leaf key value ih
  | branch key children rest ihc ihr => exact .branch key ihc ihr

theorem keys_sublist (h : s.Trimmed t) : s.keys.Sublist t.keys := by
  induction h with
  | nil => exact .slnil
  | leaf key value h ih => exact ih.cons_cons key
  | branch key hinner h _ ih => exact ih.cons_cons key
  | skipLeaf key value h ih => exact ih.cons key
  | skipBranch key children h ih => exact ih.cons key

theorem wellFormed (h : s.Trimmed t) (ht : t.WellFormed) : s.WellFormed := by
  induction h with
  | nil => trivial
  | leaf key value h ih => exact ⟨fun hmem => ht.1 (h.keys_sublist.subset hmem), ht.2.1, ih ht.2.2⟩
  | branch key hinner h ihc ihr =>
    exact ⟨fun hmem => ht.1 (h.keys_sublist.subset hmem), ihc ht.2.1, ihr ht.2.2⟩
  | skipLeaf key value h ih => exact ih ht.2.2
  | skipBranch key children h ih => exact ih ht.2.2

theorem unambiguous (h : s.Trimmed t) (ht : t.Unambiguous) : s.Unambiguous := by
  induction h with
  | nil => trivial
  | leaf key value h ih => exact ih ht
  | branch key hinner h ihc ihr =>
    exact ⟨fun hmem => ht.1 (hinner.keys_sublist.subset hmem), ihc ht.2.1, ihr ht.2.2⟩
  | skipLeaf key value h ih => exact ih ht
  | skipBranch key children h ih => exact ih ht.2.2

theorem nesting_le (h : s.Trimmed t) : s.nesting ≤ t.nesting := by
  induction h with
  | nil => exact Nat.le_refl _
  | leaf key value h ih =>
    simp only [nesting]
    omega
  | branch key hinner h ihc ihr =>
    simp only [nesting]
    omega
  | skipLeaf key value h ih =>
    simp only [nesting]
    omega
  | skipBranch key children h ih =>
    simp only [nesting]
    omega

end Trimmed

def keepEntries (keep : String → Node → Option Node) (entries : List (String × Node)) :
    List (String × Node) :=
  entries.filterMap fun entry => (keep entry.1 entry.2).map (entry.1, ·)

theorem keepEntries_cons (keep : String → Node → Option Node) (key : String) (node : Node)
    (rest : List (String × Node)) :
    keepEntries keep ((key, node) :: rest) =
      ((keep key node).map (key, ·)).toList ++ keepEntries keep rest := by
  cases hkeep : keep key node <;> simp [keepEntries, hkeep]

theorem map_fst_keepEntries_sublist (keep : String → Node → Option Node)
    (entries : List (String × Node)) :
    ((keepEntries keep entries).map Prod.fst).Sublist (entries.map Prod.fst) := by
  induction entries with
  | nil => exact .slnil
  | cons entry rest ih =>
    obtain ⟨key, node⟩ := entry
    rw [keepEntries_cons]
    cases keep key node with
    | none => exact ih.cons key
    | some kept => exact ih.cons_cons key

theorem lookup_keepEntries (keep : String → Node → Option Node) {entries : List (String × Node)}
    (h : Assoc.Unique entries) (key : String) :
    (keepEntries keep entries).lookup key = (entries.lookup key).bind (keep key) := by
  induction entries with
  | nil => rfl
  | cons entry rest ih =>
    obtain ⟨k, node⟩ := entry
    obtain ⟨hfresh, hrest⟩ := List.nodup_cons.mp h
    rw [keepEntries_cons, List.lookup_append, ih hrest, Assoc.lookup_cons_ite]
    split_ifs with hk
    · subst hk
      have hnone : rest.lookup k = none := by
        rw [← Option.not_isSome_iff_eq_none, Assoc.lookup_isSome_iff]
        exact hfresh
      cases hkeep : keep k node <;> simp [hnone, hkeep]
    · cases keep k node with
      | none => rfl
      | some kept => simp [Assoc.lookup_cons_ite, hk]

/-- A path leads to what is left of the node there. Where a subtree on the way is gone, nothing is
left below it either. -/
theorem get?_of_kept (left : KeyPath → Tree → Tree) (keep : KeyPath → Node → Option Node)
    (hfind : ∀ trail (t : Tree), t.WellFormed → ∀ key,
      (left trail t).find? key = (t.find? key).bind (keep (trail.child key)))
    (hleaf : ∀ trail value,
      keep trail (.leaf value) = none ∨ keep trail (.leaf value) = some (.leaf value))
    (hsubtree : ∀ trail children,
      keep trail (.subtree children) = some (.subtree (left trail children)) ∨
        keep trail (.subtree children) = none ∧ left trail children = .nil)
    {t : Tree} (ht : t.WellFormed) (trail path : KeyPath) :
    (left trail t).get? path = (t.get? path).bind (keep (trail ++ path)) := by
  induction path generalizing t trail with
  | nil => rfl
  | cons key path ih =>
    cases path with
    | nil => exact hfind trail t ht key
    | cons k path =>
      rw [get?_cons_cons, get?_cons_cons, hfind trail t ht]
      cases hnode : t.find? key with
      | none => rfl
      | some node =>
        cases node with
        | leaf value => rcases hleaf (trail.child key) value with h | h <;> simp [h]
        | subtree children =>
          have hchildren := ih (t := children) (ht.find? hnode) (trail.child key)
          rw [KeyPath.child, List.append_assoc, List.singleton_append] at hchildren
          rw [Option.bind_some, Option.bind_some, ← hchildren]
          rcases hsubtree (trail.child key) children with h | ⟨h, hnil⟩
          · rw [h]
            rfl
          · rw [h, show left (trail ++ [key]) children = .nil from hnil]
            cases path <;> rfl

theorem exists_cons_of_entries {t : Tree} {key : String} {node : Node}
    {after : List (String × Node)} (h : t.entries = (key, node) :: after) :
    ∃ rest, t = cons key node rest ∧ rest.entries = after := by
  have hkeys : key :: after.map Prod.fst = t.keys := by
    rw [keys, h]
    rfl
  obtain ⟨found, rest, rfl, -⟩ := eq_cons_of_keys hkeys
  rw [entries_cons] at h
  obtain ⟨hentry, hafter⟩ := List.cons.inj h
  cases hentry
  exact ⟨rest, rfl, hafter⟩

/-- A tree is trimmed when its entries are, each by itself. -/
theorem trimmed_of_keepEntries {keep : String → Node → Option Node}
    (hleaf : ∀ key value, ∀ kept ∈ keep key (.leaf value), kept = .leaf value)
    (hsubtree : ∀ key children, ∀ kept ∈ keep key (.subtree children),
      ∃ inner, kept = .subtree inner ∧ inner.Trimmed children)
    {s t : Tree} (h : s.entries = keepEntries keep t.entries) : s.Trimmed t := by
  induction t generalizing s with
  | nil =>
    obtain rfl : s = .nil := entries_injective h
    exact .nil
  | leaf key value rest ih =>
    rw [entries, keepEntries_cons] at h
    cases hkeep : keep key (.leaf value) with
    | none =>
      rw [hkeep] at h
      exact .skipLeaf key value (ih h)
    | some kept =>
      rw [hkeep] at h
      obtain ⟨after, rfl, hafter⟩ := exists_cons_of_entries h
      obtain rfl := hleaf key value kept hkeep
      exact .leaf key value (ih hafter)
  | branch key children rest _ ih =>
    rw [entries, keepEntries_cons] at h
    cases hkeep : keep key (.subtree children) with
    | none =>
      rw [hkeep] at h
      exact .skipBranch key children (ih h)
    | some kept =>
      rw [hkeep] at h
      obtain ⟨after, rfl, hafter⟩ := exists_cons_of_entries h
      obtain ⟨inner, rfl, hinner⟩ := hsubtree key children kept hkeep
      exact .branch key hinner (ih hafter)

theorem entries_ofEntries {entries : List (String × Node)} (h : Assoc.Unique entries) :
    (ofEntries entries).entries = entries := by
  induction entries using List.reverseRecOn with
  | nil => rfl
  | append_singleton before entry ih =>
    obtain ⟨key, node⟩ := entry
    rw [Assoc.Unique, List.map_append, List.nodup_append] at h
    have hbefore := ih h.1
    have hfresh : key ∉ (ofEntries before).keys := by
      rw [keys, hbefore]
      intro hmem
      exact h.2.2 key hmem key (by simp) rfl
    have hput := entries_put_of_notMem hfresh node
    rw [hbefore] at hput
    rw [ofEntries, List.foldl_append]
    exact hput

end Phrasebook.Tree
