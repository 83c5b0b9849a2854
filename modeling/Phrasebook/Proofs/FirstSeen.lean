import Mathlib.Data.List.Induction
import Mathlib.Data.List.Nodup

/-!
Distinct values in the order they are first seen.
-/
namespace Phrasebook

variable {α : Type} [BEq α] [LawfulBEq α]

theorem eraseDups_append_singleton (l : List α) (a : α) :
    (l ++ [a]).eraseDups = if a ∈ l then l.eraseDups else l.eraseDups ++ [a] := by
  rw [List.eraseDups_append, List.removeAll, List.filter_cons]
  by_cases ha : a ∈ l
  · simp [ha]
  · simp [ha, List.eraseDups_cons]

theorem pairwise_idxOf_eraseDups (l : List α) :
    l.eraseDups.Pairwise fun a b => l.idxOf a < l.idxOf b := by
  induction l using List.reverseRecOn with
  | nil => exact .nil
  | append_singleton l a ih =>
    -- What is appended does not move the values that are there.
    have hsame {b : α} (hb : b ∈ l.eraseDups) : (l ++ [a]).idxOf b = l.idxOf b :=
      List.idxOf_append_of_mem (List.mem_eraseDups.mp hb)
    have hbefore : l.eraseDups.Pairwise fun b c => (l ++ [a]).idxOf b < (l ++ [a]).idxOf c := by
      refine ih.imp_of_mem fun hb hc hbc => ?_
      rwa [hsame hb, hsame hc]
    rw [eraseDups_append_singleton]
    split_ifs with ha
    · exact hbefore
    · refine List.pairwise_append.mpr ⟨hbefore, List.pairwise_singleton _ _, fun b hb c hc => ?_⟩
      rw [List.mem_singleton.mp hc, hsame hb, List.idxOf_append_of_notMem ha]
      exact Nat.lt_add_right _ (List.idxOf_lt_length_of_mem (List.mem_eraseDups.mp hb))

theorem nodup_eraseDups (l : List α) : l.eraseDups.Nodup := by
  refine (pairwise_idxOf_eraseDups l).imp ?_
  rintro a b hab rfl
  exact Nat.lt_irrefl _ hab

/-- Whether `found` has the values of `all`, each once, in the order of their first occurrences. -/
structure FirstSeen (all found : List α) : Prop where
  once : found.Nodup
  mem_iff : ∀ a, a ∈ found ↔ a ∈ all
  order : found.Pairwise fun a b => all.idxOf a < all.idxOf b

omit [LawfulBEq α] in
theorem FirstSeen.unique {all found other : List α} (h : FirstSeen all found)
    (h' : FirstSeen all other) : found = other := by
  have hperm : found.Perm other := by
    refine (List.perm_ext_iff_of_nodup h.once h'.once).mpr fun a => ?_
    rw [h.mem_iff, h'.mem_iff]
  exact hperm.eq_of_pairwise (fun a b _ _ hab hba => absurd hba (Nat.lt_asymm hab)) h.order h'.order

theorem firstSeen_iff {all found : List α} : FirstSeen all found ↔ found = all.eraseDups := by
  have hself : FirstSeen all all.eraseDups :=
    ⟨nodup_eraseDups all, fun _ => List.mem_eraseDups, pairwise_idxOf_eraseDups all⟩
  constructor
  · exact fun h => h.unique hself
  · rintro rfl
    exact hself

end Phrasebook
