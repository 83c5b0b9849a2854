import Mathlib.Data.List.Infix
import Phrasebook.Proofs.Splitting

/-!
Raw keys and their segments. Joining undoes parsing up to the escapes, and parsing undoes joining
where the segments hold nothing that a raw key is unescaped or split at.
-/
namespace Phrasebook
namespace Text

variable {separator text piece before after : List Char} {c : Char}

/-- No piece of a split text holds the separator. -/
theorem not_infix_of_mem_splitOn (hsep : separator ≠ []) (h : piece ∈ splitOn separator text) :
    ¬separator <:+: piece := by
  induction text using break_induction hsep with
  | whole text hbreak =>
    rw [splitOn_of_breakOn?_none hbreak, List.mem_singleton] at h
    rw [h, ← breakOn?_eq_none_iff, hbreak]
  | parted text before after hbreak ih =>
    rw [splitOn_of_breakOn?_some hsep hbreak] at h
    rcases List.mem_cons.mp h with rfl | hrest
    · exact breakOn?_eq_none_iff.mp (breakOn?_before hsep hbreak)
    · exact ih hrest

/-- What replacing means: the pieces between the occurrences stay, and the occurrences do not. -/
theorem exists_pieces_of_replace (hsep : separator ≠ []) (replacement text : List Char) :
    ∃ pieces : List (List Char), (∀ piece ∈ pieces, ¬separator <:+: piece) ∧
      text = separator.intercalate pieces ∧
      replace separator replacement text = replacement.intercalate pieces :=
  ⟨splitOn separator text, fun _ hpiece => not_infix_of_mem_splitOn hsep hpiece,
    (intercalate_splitOn separator text).symm, rfl⟩

/-- The first occurrence of a character is where a text breaks on it. -/
theorem breakOn?_char (h : c ∉ before) (after : List Char) :
    breakOn? [c] (before ++ c :: after) = some (before, after) := by
  induction before with
  | nil => simp [breakOn?, dropPrefix?]
  | cons d before ih =>
    obtain ⟨hd, hbefore⟩ := not_or.mp (mt List.mem_cons.mpr h)
    rw [List.cons_append, breakOn?, dropPrefix?, if_neg hd, ih hbefore]
    rfl

theorem splitOn_intercalate {pieces : List (List Char)} (hne : pieces ≠ [])
    (h : ∀ piece ∈ pieces, c ∉ piece) : splitOn [c] ([c].intercalate pieces) = pieces := by
  induction pieces with
  | nil => exact absurd rfl hne
  | cons piece pieces ih =>
    obtain ⟨hpiece, hpieces⟩ := List.forall_mem_cons.mp h
    by_cases hlast : pieces = []
    · rw [hlast, List.intercalate_singleton, splitOn_of_breakOn?_none]
      rwa [breakOn?_eq_none_iff, List.singleton_infix_iff]
    · rw [List.intercalate_cons_of_ne_nil hlast, List.append_assoc, List.singleton_append,
        splitOn_of_breakOn?_some (List.cons_ne_nil c []) (breakOn?_char hpiece _),
        ih hlast hpieces]

end Text

namespace KeyPath

variable {separator raw : String} {text before after : List Char}

/-- Unescaping keeps a text without the escape, and goes on behind it unless what follows completes
an escape that begins at its end. -/
theorem unescapeNewlines_append (h : ¬['\\', 'n'] <:+: before) (hafter : after.head? ≠ some 'n') :
    unescapeNewlines (before ++ after) = before ++ unescapeNewlines after := by
  induction before with
  | nil => rfl
  | cons c before ih =>
    have hbefore : ¬['\\', 'n'] <:+: before := fun hinner =>
      h (hinner.trans (List.suffix_cons c before).isInfix)
    rw [List.cons_append, unescapeNewlines, ih hbefore, List.cons_append]
    rintro rest rfl hrest
    cases before with
    | nil => simp_all
    | cons d before =>
      obtain ⟨rfl, -⟩ := List.cons.inj hrest
      exact h ⟨[], before, rfl⟩

theorem unescapeNewlines_eq_self (h : ¬['\\', 'n'] <:+: text) : unescapeNewlines text = text := by
  have hend : ([] : List Char).head? ≠ some 'n' := nofun
  simpa [unescapeNewlines] using unescapeNewlines_append h hend

/-- Unescaping puts a line feed for every escape, leftmost first. -/
theorem unescapeNewlines_eq_replace (text : List Char) :
    unescapeNewlines text = Text.replace ['\\', 'n'] ['\n'] text := by
  have hsep : ['\\', 'n'] ≠ [] := List.cons_ne_nil _ _
  induction text using Text.break_induction hsep with
  | whole text hbreak =>
    rw [Text.replace, Text.splitOn_of_breakOn?_none hbreak, List.intercalate_singleton]
    exact unescapeNewlines_eq_self (Text.breakOn?_eq_none_iff.mp hbreak)
  | parted text before after hbreak ih =>
    have hbefore := Text.breakOn?_eq_none_iff.mp (Text.breakOn?_before hsep hbreak)
    rw [Text.replace, Text.splitOn_of_breakOn?_some hsep hbreak,
      List.intercalate_cons_of_ne_nil (Text.splitOn_ne_nil _ _), ← Text.replace, ← ih,
      Text.eq_append_of_breakOn? hbreak, List.append_assoc, List.append_assoc,
      unescapeNewlines_append hbefore (by simp)]
    rfl

/-- Only a separator that is part of the escape can complete one. -/
theorem unescapeNewlines_intercalate {c : Char} (hn : c ≠ 'n') (hslash : c ≠ '\\')
    {pieces : List (List Char)} (h : ∀ piece ∈ pieces, ¬['\\', 'n'] <:+: piece) :
    unescapeNewlines ([c].intercalate pieces) = [c].intercalate pieces := by
  induction pieces with
  | nil => rfl
  | cons piece pieces ih =>
    obtain ⟨hpiece, hpieces⟩ := List.forall_mem_cons.mp h
    by_cases hlast : pieces = []
    · rw [hlast, List.intercalate_singleton, unescapeNewlines_eq_self hpiece]
    · have hc : unescapeNewlines (c :: [c].intercalate pieces) = c :: [c].intercalate pieces := by
        rw [unescapeNewlines, ih hpieces]
        exact fun rest hescape _ => hslash hescape
      rw [List.intercalate_cons_of_ne_nil hlast, List.append_assoc, List.singleton_append,
        unescapeNewlines_append hpiece (by simpa using hn), hc]

theorem map_toList_parse (separator raw : String) :
    (parse separator raw).map String.toList =
      Text.splitOn separator.toList (unescapeNewlines raw.toList) := by
  simp [parse, Function.comp_def]

theorem join_parse (separator raw : String) :
    (join separator (parse separator raw)).toList =
      Text.replace ['\\', 'n'] ['\n'] raw.toList := by
  rw [join, String.toList_intercalate, map_toList_parse, Text.intercalate_splitOn,
    unescapeNewlines_eq_replace]

theorem not_infix_of_mem_parse {segment : String} (hsep : separator ≠ "")
    (h : segment ∈ parse separator raw) : ¬separator.toList <:+: segment.toList := by
  have hpiece : segment.toList ∈ Text.splitOn separator.toList (unescapeNewlines raw.toList) := by
    rw [← map_toList_parse]
    exact List.mem_map_of_mem h
  exact Text.not_infix_of_mem_splitOn (by simpa using hsep) hpiece

theorem parse_join {c : Char} {path : KeyPath} (hn : c ≠ 'n') (hslash : c ≠ '\\')
    (hpath : path ≠ [])
    (h : ∀ segment ∈ path, c ∉ segment.toList ∧ ¬['\\', 'n'] <:+: segment.toList) :
    parse (String.singleton c) (join (String.singleton c) path) = path := by
  have hfree : ∀ piece ∈ path.map String.toList, c ∉ piece ∧ ¬['\\', 'n'] <:+: piece :=
    List.forall_mem_map.mpr h
  apply (List.map_inj_right fun _ _ => String.toList_injective).mp
  rw [map_toList_parse, join, String.toList_intercalate, String.toList_singleton,
    unescapeNewlines_intercalate hn hslash fun piece hpiece => (hfree piece hpiece).2,
    Text.splitOn_intercalate (by simpa using hpath) fun piece hpiece => (hfree piece hpiece).1]

/-- Joining the segments of a raw key gives it back with a line feed for each `\n` it was written
with, and a separator that is not empty stands in none of them. Segments that hold neither a
separator of one character nor such an escape come back from their joined key. -/
theorem parse_and_join :
    (∀ separator raw : String,
      (∃ pieces : List String, (∀ piece ∈ pieces, ¬['\\', 'n'] <:+: piece.toList) ∧
        raw = "\\n".intercalate pieces ∧
        join separator (parse separator raw) = "\n".intercalate pieces) ∧
      (separator ≠ "" →
        ∀ segment ∈ parse separator raw, ¬separator.toList <:+: segment.toList)) ∧
    ∀ (c : Char) (path : KeyPath), c ≠ 'n' → c ≠ '\\' → path ≠ [] →
      (∀ segment ∈ path, c ∉ segment.toList ∧ ¬['\\', 'n'] <:+: segment.toList) →
      parse (String.singleton c) (join (String.singleton c) path) = path := by
  refine ⟨fun separator raw => ⟨?_, fun hsep segment => not_infix_of_mem_parse hsep⟩,
    fun c path hn hslash hpath h => parse_join hn hslash hpath h⟩
  obtain ⟨pieces, hclear, hraw, hreplace⟩ :=
    Text.exists_pieces_of_replace (List.cons_ne_nil '\\' ['n']) ['\n'] raw.toList
  have hpieces : (pieces.map String.ofList).map String.toList = pieces := by
    simp [Function.comp_def]
  refine ⟨pieces.map String.ofList, ?_, ?_, ?_⟩
  · simpa using hclear
  · apply String.toList_injective
    rw [String.toList_intercalate, hpieces]
    exact hraw
  · apply String.toList_injective
    rw [join_parse, String.toList_intercalate, hpieces]
    exact hreplace

/-- A separator that overlaps itself, and segments that are empty or end in a backslash. -/
theorem overlapping_separator_parses :
    let path : KeyPath := ["", "a\\", "n"]
    (∀ segment ∈ path, '|' ∉ segment.toList ∧ ¬['\\', 'n'] <:+: segment.toList) ∧
      parse (String.singleton '|') (join (String.singleton '|') path) = path ∧
      "aa" ≠ "" ∧ "ab" ∈ parse "aa" "x\\naaab" ∧ ¬['a', 'a'] <:+: "ab".toList := by
  intro path
  have hclear : ∀ segment ∈ path, '|' ∉ segment.toList ∧ ¬['\\', 'n'] <:+: segment.toList := by
    decide
  have hmem : "ab" ∈ parse "aa" "x\\naaab" := by decide
  exact ⟨hclear, parse_and_join.2 '|' path (by decide) (by decide) (by decide) hclear, by decide,
    hmem, (parse_and_join.1 "aa" "x\\naaab").2 (by decide) "ab" hmem⟩

end KeyPath
end Phrasebook
