import Mathlib.Data.List.Pairwise
import Mathlib.Tactic.Common

/-!
Stable sorting where several values may share a place. Values that tie keep the order they had, so
the sorted list is determined by its groups of ties.
-/
namespace Phrasebook

variable {α : Type} {le : α → α → Bool}

/-- A test that ranks any two values, some of them on the same place. -/
structure Ranking (le : α → α → Bool) : Prop where
  trans : ∀ a b c, le a b → le b c → le a c
  total : ∀ a b, le a b || le b a

def tied (le : α → α → Bool) (a b : α) : Bool :=
  le a b && le b a

namespace Ranking

theorem refl (h : Ranking le) (a : α) : le a a := by
  simpa using h.total a a

theorem tied_self (h : Ranking le) (a : α) : tied le a a := by
  simp [tied, h.refl a]

/-- A group of ties is in order, however it is arranged. -/
theorem pairwise_filter_tied (h : Ranking le) (l : List α) (a : α) :
    (l.filter (tied le a)).Pairwise (le · ·) := by
  refine List.pairwise_of_forall_mem_list fun b hb c hc => ?_
  have hb := Bool.and_eq_true_iff.mp (List.mem_filter.mp hb).2
  have hc := Bool.and_eq_true_iff.mp (List.mem_filter.mp hc).2
  exact h.trans b a c hb.2 hc.1

theorem filter_tied_mergeSort (h : Ranking le) (l : List α) (a : α) :
    (l.mergeSort le).filter (tied le a) = l.filter (tied le a) := by
  have hkept : (l.filter (tied le a)).Sublist (l.mergeSort le) :=
    List.sublist_mergeSort h.trans h.total (h.pairwise_filter_tied l a) List.filter_sublist
  have hgroup := hkept.filter (tied le a)
  rw [List.filter_filter] at hgroup
  simp only [Bool.and_self] at hgroup
  exact (hgroup.eq_of_length ((List.mergeSort_perm l le).filter _).length_eq.symm).symm

/-- Sorted lists with the same groups of ties are the same. -/
theorem eq_of_ties (h : Ranking le) {s t : List α} (hs : s.Pairwise (le · ·))
    (ht : t.Pairwise (le · ·)) (hties : ∀ a, s.filter (tied le a) = t.filter (tied le a)) :
    s = t := by
  have hmem {a : α} {s t : List α} (hgroup : s.filter (tied le a) = t.filter (tied le a))
      (ha : a ∈ s) : a ∈ t := by
    have hfound : a ∈ s.filter (tied le a) := List.mem_filter.mpr ⟨ha, h.tied_self a⟩
    rw [hgroup] at hfound
    exact (List.mem_filter.mp hfound).1
  induction s generalizing t with
  | nil =>
    cases t with
    | nil => rfl
    | cons b t => exact absurd (hmem (hties b).symm List.mem_cons_self) List.not_mem_nil
  | cons a s ih =>
    cases t with
    | nil => exact absurd (hmem (hties a) List.mem_cons_self) List.not_mem_nil
    | cons b t =>
      have hab : le a b := by
        rcases List.mem_cons.mp (hmem (hties b).symm List.mem_cons_self) with rfl | hb
        · exact h.refl b
        · exact (List.pairwise_cons.mp hs).1 b hb
      have hba : le b a := by
        rcases List.mem_cons.mp (hmem (hties a) List.mem_cons_self) with rfl | ha
        · exact h.refl a
        · exact (List.pairwise_cons.mp ht).1 a ha
      -- The first ones tie, so both lead their group.
      have hfirst := hties a
      rw [List.filter_cons_of_pos (h.tied_self a),
        List.filter_cons_of_pos (show tied le a b by simp [tied, hab, hba])] at hfirst
      obtain ⟨rfl, -⟩ := List.cons.inj hfirst
      rw [ih hs.of_cons ht.of_cons fun c => ?_]
      have hgroup := hties c
      rw [List.filter_cons, List.filter_cons] at hgroup
      split_ifs at hgroup with hc
      · exact (List.cons.inj hgroup).2
      · exact hgroup

theorem mergeSort_eq_of_ties (h : Ranking le) {l m : List α}
    (hties : ∀ a, l.filter (tied le a) = m.filter (tied le a)) :
    l.mergeSort le = m.mergeSort le := by
  refine h.eq_of_ties (List.pairwise_mergeSort h.trans h.total l)
    (List.pairwise_mergeSort h.trans h.total m) fun a => ?_
  rw [h.filter_tied_mergeSort, h.filter_tied_mergeSort, hties]

/-- What holds of any two values in their first order still holds where they tie. -/
theorem pairwise_mergeSort_ties (h : Ranking le) {r : α → α → Prop} {l : List α}
    (hl : l.Pairwise r) : (l.mergeSort le).Pairwise fun a b => le a b ∧ (le b a → r a b) := by
  have hsorted := List.pairwise_mergeSort h.trans h.total l
  rw [List.pairwise_iff_forall_sublist] at hsorted hl ⊢
  intro a b hsub
  refine ⟨hsorted hsub, fun hba => hl ?_⟩
  have htied : tied le a b := by simp [tied, hsorted hsub, hba]
  have hgroup := hsub.filter (tied le a)
  rw [h.filter_tied_mergeSort, List.filter_cons_of_pos (h.tied_self a),
    List.filter_cons_of_pos htied, List.filter_nil] at hgroup
  exact hgroup.trans List.filter_sublist

end Ranking
end Phrasebook
