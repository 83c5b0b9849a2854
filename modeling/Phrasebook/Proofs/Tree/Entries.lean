import Phrasebook.Proofs.Tree.Removal

/-!
Trees as lists of entries. The operations on top-level entries are those of ordered maps.
-/
namespace Phrasebook.Tree

/-- Induction over the entries of a tree, whatever they hold, and those of its subtrees. -/
@[elab_as_elim]
theorem entry_induction {motive : Tree → Prop} (nil : motive .nil)
    (entry : ∀ key node rest, (∀ children, node = .subtree children → motive children) →
      motive rest → motive (cons key node rest)) (t : Tree) : motive t := by
  induction t with
  | nil => exact nil
  | leaf key value rest ih => exact entry key (.leaf value) rest (by simp) ih
  | branch key children rest ihc ihr =>
    refine entry key (.subtree children) rest (fun inner heq => ?_) ihr
    cases heq
    exact ihc

theorem isEmpty_iff {t : Tree} : t.isEmpty ↔ t = .nil := by
  cases t <;> simp [isEmpty]

theorem entries_injective {s t : Tree} (h : s.entries = t.entries) : s = t := by
  induction s generalizing t with
  | nil =>
    cases t with
    | nil => rfl
    | leaf key value rest => cases h
    | branch key children rest => cases h
  | leaf key value s ih =>
    cases t with
    | nil => cases h
    | leaf k found rest =>
      obtain ⟨hentry, hrest⟩ := List.cons.inj h
      cases hentry
      rw [ih hrest]
    | branch k children rest => simp [entries] at h
  | branch key mine s _ ih =>
    cases t with
    | nil => cases h
    | leaf k found rest => simp [entries] at h
    | branch k children rest =>
      obtain ⟨hentry, hrest⟩ := List.cons.inj h
      cases hentry
      rw [ih hrest]

theorem find?_eq_lookup (key : String) (t : Tree) : t.find? key = t.entries.lookup key := by
  induction t with
  | nil => rfl
  | leaf k value rest ih => rw [find?, entries, Assoc.lookup_cons_ite, ih]
  | branch k children rest _ ih => rw [find?, entries, Assoc.lookup_cons_ite, ih]

theorem entries_put (key : String) (node : Node) (t : Tree) :
    (t.put key node).entries = Assoc.put key node t.entries := by
  induction t with
  | nil => exact entries_cons key node .nil
  | leaf k value rest ih =>
    by_cases hk : k = key
    · simp [put, entries, Assoc.put, hk]
    · simp [put, entries, Assoc.put, hk, ih]
  | branch k children rest _ ih =>
    by_cases hk : k = key
    · simp [put, entries, Assoc.put, hk]
    · simp [put, entries, Assoc.put, hk, ih]

theorem entries_put_of_notMem {key : String} {t : Tree} (h : key ∉ t.keys) (node : Node) :
    (t.put key node).entries = t.entries ++ [(key, node)] := by
  rw [entries_put]
  exact Assoc.put_of_notMem h node

theorem entries_erase (key : String) (t : Tree) :
    (t.erase key).entries = t.entries.eraseP (·.1 = key) := by
  induction t with
  | nil => rfl
  | leaf k value rest ih => by_cases hk : k = key <;> simp [erase, entries, hk, ih]
  | branch k children rest _ ih =>
    by_cases hk : k = key <;> simp [erase, entries, hk, ih]

theorem key_notMem_of_split {t : Tree} (ht : t.keys.Nodup) {key : String} {node : Node}
    {before rest : List (String × Node)} (h : t.entries = before ++ (key, node) :: rest) :
    key ∉ before.map Prod.fst := by
  rw [keys, h, List.map_append, List.map_cons, List.nodup_append] at ht
  exact fun hmem => ht.2.2 key hmem key List.mem_cons_self rfl

theorem mem_entries_iff {t : Tree} (ht : t.keys.Nodup) {key : String} {node : Node} :
    (key, node) ∈ t.entries ↔ t.find? key = some node := by
  rw [find?_eq_lookup, Assoc.mem_iff_lookup ht]

end Phrasebook.Tree
