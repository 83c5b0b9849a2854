import Phrasebook.Proofs.Rekey.Overlap

/-!
The same move in the canonical tree and in a locale. The leaves of a nested locale stay among those
of the canonical tree, whether the locale follows or is skipped.
-/
namespace Phrasebook

/-- The tree after a move, which is the old one if the move was skipped. -/
def RekeyOutcome.treeOr (before : Tree) : RekeyOutcome → Tree
  | .moved tree => tree
  | .skipped => before

namespace Rekey

variable {r : Rekey} {t moved canonical locale : Tree} {q : KeyPath}

theorem getLeaf?_place_iff {node : Node} {value : Phrase} (hget : t.get? r.old = some node)
    (hfree : t.collision? node.kind r.new = none) :
    (t.place node r.new).getLeaf? q = some value ↔
      (∃ rest, q = r.new ++ rest ∧ t.getLeaf? (r.old ++ rest) = some value) ∨
        ¬r.new <+: q ∧ t.getLeaf? q = some value := by
  simp only [Tree.getLeaf?_eq_some_iff, Tree.spot?_place_eq_leaf_iff r.new_ne_nil hfree,
    Tree.spot?_append hget]

/-- The leaves after a move: those of the moved node, and those that were neither at the new path
nor, unless it is a copy, at the old one. -/
theorem getLeaf?_moved_iff {value : Phrase} (ht : t.WellFormed)
    (h : r.apply t = .ok (.moved moved)) :
    moved.getLeaf? q = some value ↔ (r.copy ∨ ¬r.old <+: q) ∧
      ((∃ rest, q = r.new ++ rest ∧ t.getLeaf? (r.old ++ rest) = some value) ∨
        ¬r.new <+: q ∧ t.getLeaf? q = some value) := by
  obtain ⟨node, hget, hfree, rfl⟩ := apply_eq_moved_iff.mp h
  rw [← getLeaf?_place_iff hget hfree]
  by_cases hcopy : r.copy
  · simp [hcopy]
  · have hplaced := ht.place (ht.get? hget) r.new
    rw [if_neg hcopy, or_iff_right hcopy, Tree.getLeaf?_unset hplaced r.old_ne_nil]
    split_ifs with hold <;> simp [hold]

theorem isLeaf_moved_iff (ht : t.WellFormed) (h : r.apply t = .ok (.moved moved)) :
    moved.IsLeaf q ↔ (r.copy ∨ ¬r.old <+: q) ∧
      ((∃ rest, q = r.new ++ rest ∧ t.IsLeaf (r.old ++ rest)) ∨ ¬r.new <+: q ∧ t.IsLeaf q) := by
  simp only [Tree.IsLeaf, getLeaf?_moved_iff ht h, exists_and_left, exists_or]
  rw [exists_comm]
  simp only [exists_and_left]

theorem wellFormed_moved (ht : t.WellFormed) (h : r.apply t = .ok (.moved moved)) :
    moved.WellFormed := by
  obtain ⟨node, hget, -, rfl⟩ := apply_eq_moved_iff.mp h
  have hplaced := ht.place (ht.get? hget) r.new
  split_ifs
  · exact hplaced
  · exact hplaced.unset r.old

theorem apply_eq_skipped_iff : r.apply t = .ok .skipped ↔ t.get? r.old = none := by
  rw [apply]
  cases hget : t.get? r.old with
  | none => simp
  | some node => cases hset : t.set r.new node <;> simp [hset]

theorem not_isLeaf_below {path : KeyPath} (hpath : path ≠ []) (h : t.get? path = none)
    (hpre : path <+: q) : ¬t.IsLeaf q := by
  intro hleaf
  obtain ⟨rest, rfl⟩ := hpre
  obtain ⟨value, hvalue⟩ := Tree.isLeaf_iff.mp hleaf
  have hnone := Tree.spot?_eq_none hpath h
  cases rest with
  | nil => simp [hnone] at hvalue
  | cons key rest =>
    obtain ⟨names, hinner⟩ := Tree.exists_inner (by simp) hvalue
    rw [hnone] at hinner
    cases hinner

theorem get?_new_of_check (hforbid : r.policy = .forbid) (h : r.check canonical = .ok ()) :
    canonical.get? r.new = none := by
  rw [check] at h
  split_ifs at h with _ _ hexists
  simpa [hforbid] using hexists

/-- A nested locale whose leaves are all canonical stays so when a key is moved or copied in both
trees, also when the locale lacks the key and is skipped. -/
theorem locale_leaves_stay_canonical (hcanonical : canonical.WellFormed)
    (hlocale : locale.WellFormed) (hnested : locale.isFlat r.separator = false)
    (hsub : locale.leafPaths ⊆ canonical.leafPaths) (hforbid : r.policy = .forbid)
    (hcheck : r.check canonical = .ok ()) (hmoved : r.apply canonical = .ok (.moved moved))
    {outcome : RekeyOutcome} (houtcome : r.applyLocale locale = .ok outcome) :
    (outcome.treeOr locale).leafPaths ⊆ moved.leafPaths := by
  rw [applyLocale, Tree.expandFlat_of_nested hnested] at houtcome
  have hleaf (path : KeyPath) (h : locale.IsLeaf path) : canonical.IsLeaf path :=
    (Tree.mem_leafPaths_iff hcanonical).mp (hsub ((Tree.mem_leafPaths_iff hlocale).mpr h))
  intro path hpath
  rw [Tree.mem_leafPaths_iff (wellFormed_moved hcanonical hmoved),
    isLeaf_moved_iff hcanonical hmoved]
  cases outcome with
  | moved tree =>
    rw [RekeyOutcome.treeOr, Tree.mem_leafPaths_iff (wellFormed_moved hlocale houtcome),
      isLeaf_moved_iff hlocale houtcome] at hpath
    obtain ⟨hkept, ⟨rest, rfl, hold⟩ | ⟨hnew, hsame⟩⟩ := hpath
    · exact ⟨hkept, .inl ⟨rest, rfl, hleaf _ hold⟩⟩
    · exact ⟨hkept, .inr ⟨hnew, hleaf _ hsame⟩⟩
  | skipped =>
    have hgone := apply_eq_skipped_iff.mp houtcome
    have hsame := (Tree.mem_leafPaths_iff hlocale).mp hpath
    have hold : ¬r.old <+: path := fun hpre => not_isLeaf_below r.old_ne_nil hgone hpre hsame
    have hnew : ¬r.new <+: path := fun hpre =>
      not_isLeaf_below r.new_ne_nil (get?_new_of_check hforbid hcheck) hpre (hleaf _ hsame)
    exact ⟨.inr hold, .inr ⟨hnew, hleaf _ hsame⟩⟩

/-- A locale with an empty subtree where the canonical tree has a leaf. -/
theorem partial_locale_stays_canonical :
    let r : Rekey := ⟨"a|b", "c", "|", false, .forbid⟩
    let canonical : Tree :=
      .branch "a" (.leaf "b" (.text "B") (.leaf "d" (.plural ⟨[("other", "D")]⟩) .nil)) .nil
    let moved : Tree :=
      .branch "a" (.leaf "d" (.plural ⟨[("other", "D")]⟩) .nil) (.leaf "c" (.text "B") .nil)
    let locale : Tree := .branch "a" (.branch "b" .nil (.leaf "d" (.text "d") .nil)) .nil
    let follows : Tree := .branch "a" (.leaf "d" (.text "d") .nil) (.branch "c" .nil .nil)
    (canonical.WellFormed ∧ locale.WellFormed ∧ locale.isFlat r.separator = false ∧
        locale.leafPaths ⊆ canonical.leafPaths ∧ r.check canonical = .ok () ∧
        r.apply canonical = .ok (.moved moved) ∧ r.applyLocale locale = .ok (.moved follows)) ∧
      follows.leafPaths ⊆ moved.leafPaths := by
  intro r canonical moved locale follows
  have hcanonical : canonical.WellFormed := by
    simp [canonical, Tree.WellFormed, Phrase.WellFormed, Plural.WellFormed, Assoc.Unique,
      Plural.otherForm]
  have hlocale : locale.WellFormed := by simp [locale, Tree.WellFormed, Phrase.WellFormed]
  have hnested : locale.isFlat r.separator = false := by decide
  have hsub : locale.leafPaths ⊆ canonical.leafPaths := by decide
  have hcheck : r.check canonical = .ok () := by decide
  have hmoved : r.apply canonical = .ok (.moved moved) := by decide
  have hfollows : r.applyLocale locale = .ok (.moved follows) := by decide
  exact ⟨⟨hcanonical, hlocale, hnested, hsub, hcheck, hmoved, hfollows⟩,
    locale_leaves_stay_canonical hcanonical hlocale hnested hsub rfl hcheck hmoved hfollows⟩

end Rekey
end Phrasebook
