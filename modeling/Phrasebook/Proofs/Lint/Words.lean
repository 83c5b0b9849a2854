import Mathlib.Tactic.Common
import Phrasebook.Lint.Words

/-!
Words that are written out. A leaf is reported exactly when a listed word stands in one of its
texts, and once for each word.
-/
namespace Phrasebook

theorem Text.dropFolded?_eq_some_iff {pattern text rest : List Char} :
    dropFolded? pattern text = some rest ↔
      ∃ found, text = found ++ rest ∧ found.map fold = pattern.map fold := by
  induction pattern generalizing text with
  | nil => simp [dropFolded?]
  | cons p pattern ih =>
    cases text with
    | nil => simp [dropFolded?]
    | cons c text =>
      have hfirst : (∃ found, c :: text = found ++ rest ∧
          found.map fold = (p :: pattern).map fold) ↔
          fold p = fold c ∧ ∃ found, text = found ++ rest ∧ found.map fold = pattern.map fold := by
        constructor
        · rintro ⟨found, htext, hfound⟩
          cases found with
          | nil => cases hfound
          | cons d found =>
            obtain ⟨hfold, hrest⟩ := List.cons.inj hfound
            obtain ⟨rfl, rfl⟩ := List.cons.inj htext
            exact ⟨hfold.symm, found, rfl, hrest⟩
        · rintro ⟨hfold, found, rfl, hfound⟩
          exact ⟨c :: found, rfl, by simp [hfold, hfound]⟩
      rw [dropFolded?, hfirst, ← ih]
      split_ifs with hfold <;> simp [hfold]

namespace Lint

/-- A word stands in a text, in any case, and no letter goes on at either of its ends. -/
def WholeWord (word text : List Char) : Prop :=
  ∃ before found after, text = before ++ found ++ after ∧
    found.map Text.fold = word.map Text.fold ∧
    Text.isBoundary before.getLast? (found ++ after).head? ∧
    Text.isBoundary (before ++ found).getLast? after.head?

variable {word before text : List Char}

theorem startsWord_iff :
    startsWord word before.getLast? text ↔
      ∃ found after, text = found ++ after ∧ found.map Text.fold = word.map Text.fold ∧
        Text.isBoundary before.getLast? text.head? ∧
        Text.isBoundary (before ++ found).getLast? after.head? := by
  have hlength {found : List Char} (h : found.map Text.fold = word.map Text.fold) :
      found.length = word.length := by
    simpa using congrArg List.length h
  rw [startsWord]
  cases hdrop : Text.dropFolded? word text with
  | none =>
    simp only [Bool.false_eq_true, false_iff]
    rintro ⟨found, after, htext, hfound, -⟩
    rw [Text.dropFolded?_eq_some_iff.mpr ⟨found, htext, hfound⟩] at hdrop
    cases hdrop
  | some rest =>
    obtain ⟨found, rfl, hfound⟩ := Text.dropFolded?_eq_some_iff.mp hdrop
    have htake : (found ++ rest).take word.length = found := by
      rw [← hlength hfound, List.take_left]
    simp only [htake, Bool.and_eq_true, ← List.getLast?_append]
    constructor
    · rintro ⟨hfront, hend⟩
      exact ⟨found, rest, rfl, hfound, hfront, hend⟩
    · rintro ⟨other, after, htext, hother, hfront, hend⟩
      obtain ⟨rfl, rfl⟩ := List.append_inj htext ((hlength hfound).trans (hlength hother).symm)
      exact ⟨hfront, hend⟩

/-- What the search finds in the rest of a text, with the text in front of it. -/
theorem hasWord_behind_iff :
    hasWord word before.getLast? text ↔
      ∃ skipped found after, text = skipped ++ found ++ after ∧
        found.map Text.fold = word.map Text.fold ∧
        Text.isBoundary (before ++ skipped).getLast? (found ++ after).head? ∧
        Text.isBoundary (before ++ skipped ++ found).getLast? after.head? := by
  induction text generalizing before with
  | nil =>
    rw [hasWord, startsWord_iff]
    constructor
    · rintro ⟨found, after, htext, hfound, hfront, hend⟩
      exact ⟨[], found, after, htext, hfound, by simpa [← htext] using hfront, by simpa using hend⟩
    · rintro ⟨skipped, found, after, htext, hfound, hfront, hend⟩
      obtain ⟨hempty, rfl⟩ := List.append_eq_nil_iff.mp htext.symm
      obtain ⟨rfl, rfl⟩ := List.append_eq_nil_iff.mp hempty
      exact ⟨[], [], rfl, hfound, by simpa using hfront, by simpa using hend⟩
  | cons c text ih =>
    have hnext : some c = (before ++ [c]).getLast? := List.getLast?_concat.symm
    rw [hasWord, Bool.or_eq_true, startsWord_iff, hnext, ih]
    constructor
    · rintro (⟨found, after, htext, hfound, hfront, hend⟩ |
        ⟨skipped, found, after, htext, hfound, hfront, hend⟩)
      · exact ⟨[], found, after, htext, hfound, by simpa [← htext] using hfront,
          by simpa using hend⟩
      · exact ⟨c :: skipped, found, after, by simp [htext], hfound, by simpa using hfront,
          by simpa using hend⟩
    · rintro ⟨skipped, found, after, htext, hfound, hfront, hend⟩
      cases skipped with
      | nil =>
        rw [List.nil_append] at htext
        exact .inl ⟨found, after, htext, hfound, by simpa [htext] using hfront,
          by simpa using hend⟩
      | cons d skipped =>
        obtain ⟨rfl, rfl⟩ := List.cons.inj htext
        exact .inr ⟨skipped, found, after, rfl, hfound, by simpa using hfront, by simpa using hend⟩

theorem hasWord_iff : hasWord word none text ↔ WholeWord word text := by
  have hbehind : hasWord word ([] : List Char).getLast? text ↔ _ := hasWord_behind_iff
  exact hbehind

instance : Decidable (WholeWord word text) :=
  decidable_of_iff _ hasWord_iff

def FirstWord (words : List String) (value word : String) : Prop :=
  ∃ earlier later, words = earlier ++ word :: later ∧ WholeWord word.toList value.toList ∧
    ∀ other ∈ earlier, ¬WholeWord other.toList value.toList

variable {list : Denylist} {reported values : List String} {value word : String}

theorem Denylist.find?_eq_some_iff :
    list.find? value = some word ↔ FirstWord list.words value word := by
  rw [Denylist.find?, List.find?_eq_some_iff_append, hasWord_iff, FirstWord]
  simp only [Bool.not_eq_true', ← Bool.not_eq_true, hasWord_iff]
  constructor
  · rintro ⟨hword, earlier, later, hwords, hearlier⟩
    exact ⟨earlier, later, hwords, hword, hearlier⟩
  · rintro ⟨earlier, later, hwords, hword, hearlier⟩
    exact ⟨hword, earlier, later, hwords, hearlier⟩

theorem Denylist.exists_find?_iff :
    (∃ word, list.find? value = some word) ↔
      ∃ word ∈ list.words, WholeWord word.toList value.toList := by
  simp only [Denylist.find?, ← Option.isSome_iff_exists, List.find?_isSome, hasWord_iff]

theorem find?_of_mem_findings (h : (value, word) ∈ findings list reported values) :
    list.find? value = some word ∧ word ∉ reported := by
  fun_induction findings list reported values with
  | case1 => cases h
  | case2 reported first values hfind ih => exact ih h
  | case3 reported first values found hfind hold ih => exact ih h
  | case4 reported first values found hfind hnew ih =>
    rcases List.mem_cons.mp h with heq | h
    · cases heq
      exact ⟨hfind, hnew⟩
    · obtain ⟨hword, hother⟩ := ih h
      exact ⟨hword, fun hmem => hother (List.mem_cons_of_mem found hmem)⟩

theorem nodup_findings : ((findings list reported values).map Prod.snd).Nodup := by
  fun_induction findings list reported values with
  | case1 => exact List.nodup_nil
  | case2 reported first values hfind ih => exact ih
  | case3 reported first values found hfind hold ih => exact ih
  | case4 reported first values found hfind hnew ih =>
    refine List.nodup_cons.mpr ⟨fun hmem => ?_, ih⟩
    obtain ⟨⟨value, word⟩, hpair, rfl⟩ := List.mem_map.mp hmem
    exact (find?_of_mem_findings hpair).2 List.mem_cons_self

/-- Texts are passed over, but their order stays. -/
theorem sublist_findings : ((findings list reported values).map Prod.fst).Sublist values := by
  fun_induction findings list reported values with
  | case1 => exact List.Sublist.slnil
  | case2 reported first values hfind ih => exact ih.cons first
  | case3 reported first values found hfind hold ih => exact ih.cons first
  | case4 reported first values found hfind hnew ih => exact ih.cons_cons first

/-- A word that comes first in some text is reported, unless it has been before. -/
theorem exists_mem_findings (hvalue : value ∈ values) (hfind : list.find? value = some word) :
    word ∈ reported ∨ ∃ other, (other, word) ∈ findings list reported values := by
  fun_induction findings list reported values with
  | case1 => cases hvalue
  | case2 reported first values hnone ih =>
    rcases List.mem_cons.mp hvalue with rfl | hvalue
    · rw [hfind] at hnone
      cases hnone
    · exact ih hvalue
  | case3 reported first values found hfound hold ih =>
    rcases List.mem_cons.mp hvalue with rfl | hvalue
    · rw [hfind] at hfound
      cases hfound
      exact .inl hold
    · exact ih hvalue
  | case4 reported first values found hfound hnew ih =>
    rcases List.mem_cons.mp hvalue with rfl | hvalue
    · rw [hfind] at hfound
      cases hfound
      exact .inr ⟨value, List.mem_cons_self⟩
    · rcases ih hvalue with hmem | ⟨other, hmem⟩
      · rcases List.mem_cons.mp hmem with rfl | hmem
        · exact .inr ⟨first, List.mem_cons_self⟩
        · exact .inl hmem
      · exact .inr ⟨other, List.mem_cons_of_mem _ hmem⟩

theorem findings_ne_nil_iff :
    findings list [] values ≠ [] ↔
      ∃ value ∈ values, ∃ word ∈ list.words, WholeWord word.toList value.toList := by
  simp only [← Denylist.exists_find?_iff]
  constructor
  · intro h
    obtain ⟨⟨value, word⟩, hpair⟩ := List.exists_mem_of_ne_nil _ h
    have hvalue : value ∈ values :=
      sublist_findings.subset (List.mem_map_of_mem (f := Prod.fst) hpair)
    exact ⟨value, hvalue, word, (find?_of_mem_findings hpair).1⟩
  · rintro ⟨value, hvalue, word, hfind⟩
    have hfound : word ∈ [] ∨ ∃ other, (other, word) ∈ findings list [] values :=
      exists_mem_findings hvalue hfind
    rcases hfound with hmem | ⟨other, hmem⟩
    · cases hmem
    · exact List.ne_nil_of_mem hmem

/-- The issues are those of the leaves in the order of the file. A leaf has one exactly when its key
is not allowed and a listed word stands in one of its texts. Each issue names a text with the first
word that stands in it, the texts of a leaf keep their order, and no word is named twice. -/
theorem checkWords_reports (file : PhraseFile) (separator : String) (list : Denylist) :
    ∃ reported : Leaf → List (String × String),
      checkWords file separator list =
        ((leaves file).flatMap fun leaf => (reported leaf).map fun (value, word) =>
          .hardcodedWord (leaf.message file separator value) word) ∧
      ∀ leaf ∈ leaves file,
        (reported leaf ≠ [] ↔ leaf.key separator ∉ list.allowedKeys ∧
          ∃ value ∈ leaf.phrase.strings, ∃ word ∈ list.words,
            WholeWord word.toList value.toList) ∧
        (∀ found ∈ reported leaf, FirstWord list.words found.1 found.2) ∧
        ((reported leaf).map Prod.snd).Nodup ∧
        ((reported leaf).map Prod.fst).Sublist leaf.phrase.strings := by
  refine ⟨fun leaf => if leaf.key separator ∈ list.allowedKeys then []
    else findings list [] leaf.phrase.strings, ?_, fun leaf _ => ?_⟩
  · rw [checkWords]
    congr 1
    funext leaf
    by_cases hallowed : leaf.key separator ∈ list.allowedKeys <;> simp [hallowed]
  · by_cases hallowed : leaf.key separator ∈ list.allowedKeys
    · simp [hallowed]
    · simp only [hallowed, not_false_eq_true, true_and]
      exact ⟨findings_ne_nil_iff,
        fun found hmem => Denylist.find?_eq_some_iff.mp (find?_of_mem_findings hmem).1,
        nodup_findings, sublist_findings⟩

/-- A plural with both words in its first form, one of them in another, and an allowed key. -/
theorem plural_forms_reported :
    let devices : Leaf := ⟨["devices"],
      .plural ⟨[("one", "One Element device"), ("few", "device"), ("other", "ELEMENT devices")]⟩⟩
    let file : PhraseFile := ⟨"en.json", "", .leaf "devices" devices.phrase
      (.branch "brand" (.leaf "name" (.text "Element") .nil) .nil)⟩
    let list : Denylist := ⟨["element", "device"], ["brand|name"]⟩
    devices ∈ leaves file ∧
      checkWords file "|" list =
        [.hardcodedWord (devices.message file "|" "One Element device") "element",
          .hardcodedWord (devices.message file "|" "device") "device"] ∧
      ∃ reported : Leaf → List (String × String),
        checkWords file "|" list =
          ((leaves file).flatMap fun leaf => (reported leaf).map fun (value, word) =>
            .hardcodedWord (leaf.message file "|" value) word) ∧
        reported devices ≠ [] ∧ ((reported devices).map Prod.snd).Nodup := by
  intro devices file list
  have hmem : devices ∈ leaves file := by decide
  obtain ⟨reported, hissues, hleaf⟩ := checkWords_reports file "|" list
  obtain ⟨hany, -, hnodup, -⟩ := hleaf devices hmem
  have hword : ∃ value ∈ devices.phrase.strings, ∃ word ∈ list.words,
      WholeWord word.toList value.toList := by decide +kernel
  exact ⟨hmem, by decide +kernel, reported, hissues, hany.mpr ⟨by decide, hword⟩, hnodup⟩

end Lint
end Phrasebook
