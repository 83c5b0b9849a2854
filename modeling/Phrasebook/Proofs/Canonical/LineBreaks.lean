import Mathlib.Tactic.Ring
import Phrasebook.Proofs.Canonical.Compatibility
import Phrasebook.Proofs.Canonical.FirstFailure

/-!
Keys with line breaks. A key is recorded with its line breaks written as line feeds, but the text that
a call is checked against is looked up under the key as written.
-/
namespace Phrasebook

namespace Text

variable {pattern replacement text : List Char}

theorem replace_eq_self (h : ¬pattern <:+: text) : replace pattern replacement text = text := by
  rw [replace, splitOn_of_breakOn?_none (breakOn?_eq_none_iff.mpr h), List.intercalate_singleton]

theorem one_lt_length_splitOn (hpattern : pattern ≠ []) (h : pattern <:+: text) :
    1 < (splitOn pattern text).length := by
  have hfound : breakOn? pattern text ≠ none := fun hnone => breakOn?_eq_none_iff.mp hnone h
  obtain ⟨⟨before, after⟩, hbreak⟩ := Option.ne_none_iff_exists'.mp hfound
  have hrest : 0 < (splitOn pattern after).length :=
    List.length_pos_iff.mpr (splitOn_ne_nil pattern after)
  rw [splitOn_of_breakOn?_some hpattern hbreak, List.length_cons]
  omega

theorem count_intercalate (c : Char) (separator : List Char) (pieces : List (List Char)) :
    (separator.intercalate pieces).count c =
      (pieces.map (List.count c)).sum + (pieces.length - 1) * separator.count c := by
  induction pieces with
  | nil => simp
  | cons piece pieces ih =>
    cases pieces with
    | nil => simp
    | cons next pieces =>
      rw [List.intercalate_cons_of_ne_nil (by simp), List.count_append, List.count_append, ih]
      simp only [List.map_cons, List.sum_cons, List.length_cons, Nat.add_sub_cancel]
      ring

/-- Replacing a text that occurs by one that has less of some character leaves less of it. -/
theorem count_replace_lt {c : Char} (h : pattern <:+: text)
    (hless : replacement.count c < pattern.count c) :
    (replace pattern replacement text).count c < text.count c := by
  have hpattern : pattern ≠ [] := by
    rintro rfl
    simp at hless
  have hpieces : 0 < (splitOn pattern text).length - 1 := by
    have hmany := one_lt_length_splitOn hpattern h
    omega
  have htext := congrArg (List.count c) (intercalate_splitOn pattern text)
  rw [count_intercalate] at htext
  rw [replace, count_intercalate, ← htext]
  exact Nat.add_lt_add_left (Nat.mul_lt_mul_of_pos_left hless hpieces) _

end Text

/-- A key and its recorded form lead to the same path exactly if the key has no line break to
rewrite. -/
theorem parse_recordedKey_iff {separator key : String} :
    KeyPath.parse separator (recordedKey key) = KeyPath.parse separator key ↔
      ¬['\r', '\n'] <:+: key.toList := by
  constructor
  · intro hparse hbreak
    have hcount := congrArg (List.count '\r') (KeyPath.unescapeNewlines_eq_of_parse hparse)
    rw [KeyPath.count_unescapeNewlines, KeyPath.count_unescapeNewlines, recordedKey,
      String.toList_ofList] at hcount
    have hless : (Text.replace ['\r', '\n'] ['\n'] key.toList).count '\r' < key.toList.count '\r' :=
      Text.count_replace_lt hbreak (by decide)
    omega
  · intro hbreak
    rw [recordedKey, Text.replace_eq_self hbreak, String.ofList_toList]

namespace Tree

variable {path q : KeyPath} {value found : Phrase}

theorem getLeaf?_place_empty (hpath : path ≠ []) :
    (nil.place (.leaf value) path).getLeaf? q = some found ↔ q = path ∧ value = found := by
  obtain ⟨key, rest, rfl⟩ := List.exists_cons_of_ne_nil hpath
  have hempty : nil.spot? q ≠ some (.leaf found) := by
    cases q <;> rintro ⟨⟩
  rw [getLeaf?_eq_some_iff, spot?_place_eq_leaf_iff hpath (collision?_of_find?_none rfl _ _)]
  simp [Node.spot?, hempty]

end Tree

variable {old : Tree} {separator : String} {scan : Scan} {call : Call}

/-- Whether a call fits the English text that stands under some key, if there is one. -/
def Call.Fits (old : Tree) (separator key : String) (call : Call) : Prop :=
  ∀ value, old.getLeaf? (KeyPath.parse separator key) = some value → value.primary ≠ "" →
    call.check value.primary = .ok ()

theorem Call.not_rejected_iff :
    ¬call.Rejected old separator ↔ (call.isChecked → call.Fits old separator call.key) := by
  constructor
  · intro haccepted hchecked value hvalue hne
    cases hcheck : call.check value.primary with
    | ok accepted => rfl
    | error fault =>
      obtain ⟨horigin, hcallee⟩ := isChecked_iff.mp hchecked
      exact absurd ⟨fault, horigin, hcallee, value, hvalue, hne, hcheck⟩ haccepted
  · rintro hfits ⟨fault, horigin, hcallee, value, hvalue, hne, hcheck⟩
    have hok := hfits (isChecked_iff.mpr ⟨horigin, hcallee⟩) value hvalue hne
    rw [hok] at hcheck
    cases hcheck

/-- The calls of a successful generation fit the texts under their keys as written. -/
theorem fits_of_generate {g : Generated} {e : Extraction}
    (h : generate old scan separator = .ok g) (he : .ok e ∈ scan) (hcall : call ∈ e.calls)
    (hchecked : call.isChecked) : call.Fits old separator call.key := by
  obtain ⟨haccept, -⟩ := exists_generate_iff.mp ⟨g, h, rfl⟩
  obtain ⟨-, hchecks⟩ := acceptScan_eq_ok_iff.mp haccept
  have haccepted := Extraction.check_eq_ok_iff.mp (hchecks e (Scan.mem_extractions he)) call hcall
  exact Call.not_rejected_iff.mp haccepted hchecked

def Call.bare (key : String) : Call :=
  ⟨⟨"src/a.ts", 1, 1, ""⟩, checkedFunction, key, none, [], .script⟩

theorem Call.check_bare (key : String) :
    (bare key).check "%(x)s" = .error (.missingSubstitution "x" false) := by
  have hnames : Placeholder.names "%(x)s" = .ok ["x"] := by decide +kernel
  rw [check, hnames]
  rfl

/-- A call is accepted when the only text of the old tree stands at another path. -/
theorem exists_generate_of_elsewhere {path : KeyPath} {key : String} (hpath : path ≠ [])
    (hne : KeyPath.parse separator key ≠ path) (value : Phrase) :
    ∃ g, generate (Tree.nil.place (.leaf value) path) [.ok ⟨"src/a.ts", [.bare key], []⟩] separator =
      .ok g := by
  have haccepted : ∀ item ∈ [Except.ok ⟨"src/a.ts", [Call.bare key], []⟩],
      ¬Scan.Fails (Tree.nil.place (.leaf value) path) separator item := by
    intro item hitem
    rw [List.mem_singleton.mp hitem]
    rintro ⟨call, hcall, fault, hrejected⟩
    rw [List.mem_singleton.mp hcall] at hrejected
    obtain ⟨found, hfound, -⟩ := hrejected.check
    exact hne ((Tree.getLeaf?_place_empty hpath).mp hfound).1
  have hunnested : KeyPath.Unnested (KeyTable.paths ⟨[(recordedKey key, false)]⟩ separator) := by
    intro p hp q hq _
    rw [List.mem_singleton.mp hp, List.mem_singleton.mp hq]
  obtain ⟨t, ht⟩ :=
    KeyTable.exists_build_of_unnested (Tree.nil.place (.leaf value) path) hunnested
  obtain ⟨g, hg, -⟩ := exists_generate_iff.mpr ⟨acceptScan_of_not_fails haccepted, ht⟩
  exact ⟨g, hg⟩

/-- Whatever the generated tree keeps for a key is what its calls are checked against, in every
successful generation, exactly if the key has no line break to rewrite. -/
theorem fits_recorded_key_iff (separator key : String) :
    (∀ old scan g e call, old.WellFormed → generate old scan separator = .ok g → .ok e ∈ scan →
      call ∈ e.calls → call.isChecked → call.key = key →
        call.Fits old separator (recordedKey key)) ↔
      ¬['\r', '\n'] <:+: key.toList := by
  constructor
  · intro hall
    rw [← @parse_recordedKey_iff separator]
    by_contra hne
    have hpath := KeyPath.parse_ne_nil separator (recordedKey key)
    let old : Tree := Tree.nil.place (.text "%(x)s") (KeyPath.parse separator (recordedKey key))
    have hempty : Tree.WellFormed .nil := trivial
    have htext : Node.WellFormed (.text "%(x)s") := trivial
    have hold : old.WellFormed := hempty.place htext _
    have hleaf : old.getLeaf? (KeyPath.parse separator (recordedKey key)) = some (.text "%(x)s") :=
      (Tree.getLeaf?_place_empty hpath).mpr ⟨rfl, rfl⟩
    obtain ⟨g, hg⟩ := exists_generate_of_elsewhere hpath (Ne.symm hne) (.text "%(x)s")
    have hfits := hall old _ g _ (.bare key) hold hg (List.mem_singleton_self _)
      (List.mem_singleton_self _) rfl rfl
    have hcheck := hfits _ hleaf (by decide)
    rw [Phrase.primary, Call.check_bare] at hcheck
    cases hcheck
  · intro hbreak old scan g e call _ h he hcall hchecked hkey
    have hfits := fits_of_generate h he hcall hchecked
    rw [Call.Fits, hkey, ← parse_recordedKey_iff.mpr hbreak] at hfits
    exact hfits

/-- A key with a line break that is a line feed already. -/
theorem line_feed_fits_recorded_key :
    let old : Tree := .leaf "a\nb" (.text "Hello %(name)s") .nil
    let call : Call := ⟨⟨"src/a.ts", 1, 1, ""⟩, "_t", "a\nb", some ["name"], [], .script⟩
    let g : Generated := ⟨old, [("src/a.ts", 1)], 1, []⟩
    generate old [.ok ⟨"src/a.ts", [call], []⟩] "|" = .ok g ∧
      call.Fits old "|" (recordedKey "a\nb") := by
  intro old call g
  have hold : old.WellFormed := by
    simp [old, Tree.WellFormed, Phrase.WellFormed]
  have hgenerate : generate old [.ok ⟨"src/a.ts", [call], []⟩] "|" = .ok g := by decide +kernel
  have hbreak : ¬['\r', '\n'] <:+: "a\nb".toList := by decide +kernel
  exact ⟨hgenerate, (fits_recorded_key_iff "|" "a\nb").mpr hbreak old _ g _ call hold hgenerate
    (List.mem_singleton_self _) (List.mem_singleton_self _) rfl rfl⟩

/-- With a line break to rewrite, a call without the substitution it needs is accepted. -/
theorem line_break_skips_check :
    ¬∀ (old : Tree) (scan : Scan) (separator : String) (g : Generated) (e : Extraction)
      (call : Call), old.WellFormed → generate old scan separator = .ok g → .ok e ∈ scan →
        call ∈ e.calls → call.isChecked → call.Fits old separator (recordedKey call.key) := by
  intro hall
  let old : Tree := .leaf "a\nb" (.text "Hello %(name)s") .nil
  let call : Call := ⟨⟨"src/a.ts", 1, 1, ""⟩, "_t", "a\r\nb", none, [], .script⟩
  have hold : old.WellFormed := by
    simp [old, Tree.WellFormed, Phrase.WellFormed]
  have hgenerate : generate old [.ok ⟨"src/a.ts", [call], []⟩] "|" =
      .ok ⟨old, [("src/a.ts", 1)], 1, []⟩ := by decide +kernel
  have hleaf : old.getLeaf? (KeyPath.parse "|" (recordedKey "a\r\nb")) =
      some (.text "Hello %(name)s") := by decide +kernel
  have hfits := hall old _ "|" _ _ call hold hgenerate (List.mem_singleton_self _)
    (List.mem_singleton_self _) rfl _ hleaf (by decide)
  have hcheck : call.check "Hello %(name)s" = .error (.missingSubstitution "name" false) := by
    decide +kernel
  rw [Phrase.primary, hcheck] at hfits
  cases hfits

end Phrasebook
