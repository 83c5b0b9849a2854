import Mathlib.Data.List.Basic
import Phrasebook.Text.Lowercase

/-!
Lower-casing a text in parts. A capital sigma is the only character that looks around itself, and it
looks no further than to the next character without a case.
-/
namespace Phrasebook.Text

variable {c mark : Char} {before s t : List Char}

theorem toList_lowercase (text : String) :
    (lowercase text).toList = lowercaseAfter [] text.toList :=
  String.toList_ofList

/-- Whether a character neither has a case nor lets one be seen through it. -/
def Caseless (c : Char) : Prop :=
  inRanges casedRanges c = false ∧ inRanges caseIgnorableRanges c = false

instance : DecidablePred Caseless := fun c =>
  inferInstanceAs (Decidable (inRanges casedRanges c = false ∧
    inRanges caseIgnorableRanges c = false))

theorem startsCased_append (hc : Caseless c) (s t : List Char) :
    startsCased (s ++ c :: t) = startsCased s := by
  induction s with
  | nil => simp [startsCased, hc.1, hc.2]
  | cons d s ih =>
    by_cases hd : inRanges caseIgnorableRanges d
    · simpa [startsCased, hd] using ih
    · simp [startsCased, hd]

theorem lowercaseAfter_caseless (hc : Caseless c) (seen before s : List Char) :
    lowercaseAfter (seen ++ c :: before) s = lowercaseAfter seen s := by
  induction s generalizing seen with
  | nil => rfl
  | cons d s ih => simp only [lowercaseAfter, startsCased_append hc, ← List.cons_append, ih]

/-- What stands on either side of a character without a case is lower-cased on its own. -/
theorem lowercaseAfter_append (hc : Caseless c) (before s t : List Char) :
    lowercaseAfter before (s ++ c :: t) =
      lowercaseAfter before s ++ mapCase lowerRuns c :: lowercaseAfter [] t := by
  induction s generalizing before with
  | nil =>
    have hsigma : c ≠ 'Σ' := by
      rintro rfl
      exact absurd hc.1 (by decide +kernel)
    have hdotted : c ≠ 'İ' := by
      rintro rfl
      exact absurd hc.1 (by decide +kernel)
    have hafter := lowercaseAfter_caseless hc [] before t
    rw [List.nil_append] at hafter
    simp only [List.nil_append, lowercaseAfter, if_neg hsigma, if_neg hdotted, hafter,
      List.singleton_append]
  | cons d s ih =>
    simp only [List.cons_append, lowercaseAfter, startsCased_append hc, ih, List.append_assoc]

/-- A number that is no code point stands for the null character. -/
theorem toNat_ofNat_cases (n : Nat) : (Char.ofNat n).toNat = n ∨ (Char.ofNat n).toNat = 0 := by
  by_cases hvalid : n.isValidChar
  · left
    rw [Char.ofNat, dif_pos hvalid]
    rfl
  · right
    rw [Char.ofNat, dif_neg hvalid]
    rfl

theorem lt_first_add_offset : ∀ run ∈ lowerRuns, (0x60 : Int) < run.first + run.offset := by
  decide +kernel

/-- No character is mapped to one in front of the small letters, other than that one itself. -/
theorem eq_of_mapCase (hmark : 0 < mark.toNat ∧ mark.toNat ≤ 0x60)
    (h : mapCase lowerRuns c = mark) : c = mark := by
  rw [mapCase] at h
  split at h
  · rename_i run hfind
    have hoffset := lt_first_add_offset run (List.mem_of_find?_eq_some hfind)
    have hcovers := List.find?_some hfind
    have hfirst : run.first ≤ c.toNat := by
      simp only [CaseRun.covers, Bool.and_eq_true, decide_eq_true_eq] at hcovers
      exact hcovers.1.1
    rcases toNat_ofNat_cases (c.toNat + run.offset).toNat with hvalid | hinvalid
    · rw [← h, hvalid] at hmark
      omega
    · rw [← h, hinvalid] at hmark
      omega
  · exact h

/-- Lower-casing makes no such character. -/
theorem mem_of_mem_lowercaseAfter (hmark : 0 < mark.toNat ∧ mark.toNat ≤ 0x60)
    (h : mark ∈ lowercaseAfter before s) : mark ∈ s := by
  have hother {d : Char} (hd : 0x60 < d.toNat) : mark ≠ d := by
    rintro rfl
    omega
  induction s generalizing before with
  | nil => cases h
  | cons c s ih =>
    simp only [lowercaseAfter] at h
    rcases List.mem_append.mp h with himage | hrest
    · refine List.mem_cons.mpr (.inl ?_)
      split_ifs at himage
      · exact absurd (List.mem_singleton.mp himage) (hother (by decide))
      · exact absurd (List.mem_singleton.mp himage) (hother (by decide))
      · rcases List.mem_pair.mp himage with rfl | rfl
        · exact absurd rfl (hother (by decide))
        · exact absurd rfl (hother (by decide))
      · exact (eq_of_mapCase hmark (List.mem_singleton.mp himage).symm).symm
    · exact List.mem_cons_of_mem c (ih hrest)

end Phrasebook.Text
