import Phrasebook.Proofs.Command.Effects
import Phrasebook.Proofs.KeyPaths
import Phrasebook.Proofs.Text.Lowering

/-!
Locale filters with a region. Such a filter selects the files of its region and no others, unless
the region repeats the language. Then it stands for the language alone.
-/
namespace Phrasebook

open Project (isLocale)

namespace Language

variable {tag other language region l r : String}

def marks : List Char := ['-', '_']

/-- Whether a tag is a language and a region with a mark between them. -/
structure Regional (tag language region : String) : Prop where
  parted : ∃ mark ∈ marks, tag.toList = language.toList ++ mark :: region.toList
  language : ∀ mark ∈ marks, mark ∉ language.toList
  region : ∀ mark ∈ marks, mark ∉ region.toList

instance : Decidable (Regional tag language region) :=
  decidable_of_iff
    (marks.any (fun mark => tag.toList = language.toList ++ mark :: region.toList) ∧
      marks.all (· ∉ language.toList) ∧ marks.all (· ∉ region.toList)) <| by
    simp only [List.any_eq_true, List.all_eq_true, decide_eq_true_eq]
    exact ⟨fun h => ⟨h.1, h.2.1, h.2.2⟩, fun h => ⟨h.parted, h.language, h.region⟩⟩

theorem caseless_mark {mark : Char} (h : mark ∈ marks) : Text.Caseless mark := by
  obtain rfl | rfl := List.mem_pair.mp h <;> decide +kernel

theorem mapCase_mark {mark : Char} (h : mark ∈ marks) :
    Text.mapCase Text.lowerRuns mark = mark := by
  obtain rfl | rfl := List.mem_pair.mp h <;> decide +kernel

theorem toNat_mark {mark : Char} (h : mark ∈ marks) : 0 < mark.toNat ∧ mark.toNat ≤ 0x60 := by
  obtain rfl | rfl := List.mem_pair.mp h <;> decide

theorem notMem_lowercase {text : String} (h : ∀ mark ∈ marks, mark ∉ text.toList) :
    ∀ mark ∈ marks, mark ∉ (Text.lowercase text).toList := by
  intro mark hmark hmem
  rw [Text.toList_lowercase] at hmem
  exact h mark hmark (Text.mem_of_mem_lowercaseAfter (toNat_mark hmark) hmem)

namespace Regional

/-- A tag is lower-cased part by part. -/
theorem lowercase (h : Regional tag language region) :
    Regional (Text.lowercase tag) (Text.lowercase language) (Text.lowercase region) where
  parted := by
    obtain ⟨mark, hmark, htag⟩ := h.parted
    refine ⟨mark, hmark, ?_⟩
    simp only [Text.toList_lowercase]
    rw [htag, Text.lowercaseAfter_append (caseless_mark hmark), mapCase_mark hmark]
  language := notMem_lowercase h.language
  region := notMem_lowercase h.region

theorem toList_normalize (h : Regional tag language region) :
    (normalize tag).toList =
      (Text.lowercase language).toList ++ '-' :: (Text.lowercase region).toList := by
  obtain ⟨mark, hmark, htag⟩ := h.lowercase.parted
  have hlanguage := h.lowercase.language '_' (by decide)
  have hregion := h.lowercase.region '_' (by decide)
  simp only [normalize]
  obtain rfl | rfl := List.mem_pair.mp hmark
  · have hnone : Text.breakOn? ['_'] (Text.lowercase tag).toList = none := by
      rw [Text.breakOn?_eq_none_iff, List.singleton_infix_iff, htag]
      simp [hlanguage, hregion]
    rw [hnone, htag]
    exact String.toList_ofList
  · rw [htag, Text.breakOn?_char hlanguage]
    exact String.toList_ofList

theorem keys_eq (h : Regional tag language region) :
    keys tag =
      if Text.lowercase language = Text.lowercase region then [Text.lowercase language]
      else [normalize tag, Text.lowercase language] := by
  have hpieces : Text.splitOn ['-'] (normalize tag).toList =
      [(Text.lowercase language).toList, (Text.lowercase region).toList] := by
    have hparts := h.lowercase
    have hdash : '-' ∈ marks := by decide
    have hjoined : (normalize tag).toList = ['-'].intercalate
        [(Text.lowercase language).toList, (Text.lowercase region).toList] := by
      rw [h.toList_normalize, List.intercalate_cons_of_ne_nil (List.cons_ne_nil _ _),
        List.intercalate_singleton, List.append_assoc, List.singleton_append]
    rw [hjoined]
    refine Text.splitOn_intercalate (List.cons_ne_nil _ _) fun piece hpiece => ?_
    rcases List.mem_pair.mp hpiece with heq | heq
    · rw [heq]
      exact hparts.language '-' hdash
    · rw [heq]
      exact hparts.region '-' hdash
  simp only [keys, hpieces, String.ofList_toList, String.toList_inj]

theorem normalize_ne_lowercase (h : Regional tag language region) (hother : Regional other l r) :
    normalize tag ≠ Text.lowercase l := by
  intro heq
  apply hother.lowercase.language '-' (by decide)
  rw [← heq, h.toList_normalize]
  simp

/-- Regional tags are alike up to case and mark when both of their parts are. -/
theorem normalize_eq_iff (h : Regional tag language region) (hother : Regional other l r) :
    normalize tag = normalize other ↔
      Text.lowercase language = Text.lowercase l ∧ Text.lowercase region = Text.lowercase r := by
  rw [← String.toList_inj, h.toList_normalize, hother.toList_normalize, ← String.toList_inj,
    ← String.toList_inj]
  constructor
  · intro heq
    have hbreak := Text.breakOn?_char (h.lowercase.language '-' (by decide))
      (Text.lowercase region).toList
    rw [heq, Text.breakOn?_char (hother.lowercase.language '-' (by decide))] at hbreak
    obtain ⟨hl, hr⟩ := Prod.mk.inj (Option.some.inj hbreak)
    exact ⟨hl.symm, hr.symm⟩
  · rintro ⟨hl, hr⟩
    rw [hl, hr]

end Regional

/-- A regional filter looks for its region, or for its language where the region repeats it. -/
theorem Regional.head?_keys (h : Regional tag language region) :
    (keys tag).head? =
      some (if Text.lowercase language = Text.lowercase region then Text.lowercase language
        else normalize tag) := by
  rw [h.keys_eq]
  split_ifs <;> rfl

theorem Regional.mem_keys_iff (h : Regional tag language region) {key : String} :
    key ∈ keys tag ↔ key = Text.lowercase language ∨
      key = normalize tag ∧ Text.lowercase language ≠ Text.lowercase region := by
  rw [h.keys_eq]
  split_ifs with hdouble
  · simp [hdouble]
  · simp [hdouble, or_comm]

/-- A regional filter selects the tags of its language with its region. If the region repeats the
language, it selects all tags of the language. -/
theorem isSelected_regional_iff {filter : String} (hfilter : Regional filter l r)
    (htag : Regional tag language region) :
    isSelected [filter] tag ↔ Text.lowercase l = Text.lowercase language ∧
      (Text.lowercase r = Text.lowercase region ∨ Text.lowercase r = Text.lowercase l) := by
  have hselected : isSelected [filter] tag ↔
      (if Text.lowercase l = Text.lowercase r then Text.lowercase l else normalize filter) ∈
        keys tag := by
    simp [isSelected, hfilter.head?_keys]
  rw [hselected, htag.mem_keys_iff]
  split_ifs with hdouble
  · have hbare := htag.normalize_ne_lowercase hfilter
    rw [or_iff_left fun h => hbare h.1.symm]
    simp [hdouble]
  · have hbare := hfilter.normalize_ne_lowercase htag
    rw [hfilter.normalize_eq_iff htag, or_iff_right hbare]
    constructor
    · rintro ⟨⟨hl, hr⟩, -⟩
      exact ⟨hl, .inl hr⟩
    · rintro ⟨hl, hr | hr⟩
      · exact ⟨⟨hl, hr⟩, fun hown => hdouble (hl.trans (hown.trans hr.symm))⟩
      · exact absurd hr.symm hdouble

theorem isSelected_iff_exists {wanted : List String} :
    isSelected wanted tag ↔ ∃ filter ∈ wanted, isSelected [filter] tag := by
  simp [isSelected]

end Language

section Files

variable {before after : Disk} {p : Project} {color : Bool} {place : Place}
  {path stem language region : String} {filters : List String}

theorem isLocale_iff_exists (hstem : FilePath.fileStem? path = some stem)
    (hfilters : filters ≠ []) :
    isLocale filters path ↔ ∃ filter ∈ filters, Language.isSelected [filter] stem := by
  rw [isLocale, hstem, Option.any_some, ← Language.isSelected_iff_exists,
    List.isEmpty_eq_false_iff.mpr hfilters, Bool.false_or]

def ProjectTask.filters? : ProjectTask → Option (List String)
  | .rekey options => some options.locales
  | .prune options => some options.locales
  | .generate _ | .lint _ | .usage _ | .sort _ => none

/-- A task that is limited to some locales leaves the files of all others as they are, except for
the canonical file and those that a wanted one is a link to. -/
theorem ProjectTask.Effect.file?_of_unwanted {task : ProjectTask}
    (h : task.Effect color p before after) (hfilters : task.filters? = some filters)
    (hsole : p.SoleName before path) (hunwanted : isLocale filters path = false)
    (hlocate : before.locate path = .ok place) (hinput : before.locate p.inputFile ≠ .ok place) :
    after.file? place = before.file? place := by
  by_contra hchanged
  cases task with
  | rekey options =>
    cases hfilters
    rcases h.rewritten place hchanged with hcanonical | ⟨other, locale, tree, hlisted, hother, -⟩
    · exact hinput hcanonical
    · exact hlisted.locate_unwanted_ne hsole hunwanted hother hlocate
  | prune options =>
    cases hfilters
    obtain ⟨other, locale, canonical, hlisted, -, hother, -⟩ := h.rewritten place hchanged
    exact hlisted.locate_unwanted_ne hsole hunwanted hother hlocate
  | generate options => cases hfilters
  | lint options => cases hfilters
  | usage options => cases hfilters
  | sort options => cases hfilters

end Files
end Phrasebook
