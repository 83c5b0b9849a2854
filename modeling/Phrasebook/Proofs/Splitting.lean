import Mathlib.Tactic.Common
import Phrasebook.Tree.Flat

/-!
Texts split at a separator. The first piece ends at the leftmost occurrence, so it holds none.
-/
namespace Phrasebook
namespace Text

variable {separator text before after : List Char}

theorem breakOn?_nil (h : separator ≠ []) : breakOn? separator [] = none := by
  cases separator with
  | nil => exact absurd rfl h
  | cons c cs => rfl

theorem breakOn?_eq_none_iff : breakOn? separator text = none ↔ ¬separator <:+: text := by
  constructor
  · rintro hnone ⟨before, after, rfl⟩
    induction before with
    | nil =>
      have hfront : dropPrefix? separator (separator ++ after) = some after :=
        dropPrefix?_eq_some.mpr rfl
      cases separator with
      | nil => cases after <;> cases hnone
      | cons p ps =>
        rw [List.nil_append, List.cons_append, breakOn?, ← List.cons_append, hfront] at hnone
        cases hnone
    | cons c before ih =>
      rw [List.cons_append, List.cons_append, breakOn?] at hnone
      split at hnone
      · cases hnone
      · exact ih (Option.map_eq_none_iff.mp hnone)
  · intro hnone
    by_contra hfound
    obtain ⟨⟨before, after⟩, hbreak⟩ := Option.ne_none_iff_exists'.mp hfound
    exact hnone ⟨before, after, (eq_append_of_breakOn? hbreak).symm⟩

/-- The text before the leftmost occurrence has no occurrence of its own. -/
theorem breakOn?_before (hsep : separator ≠ [])
    (h : breakOn? separator text = some (before, after)) : breakOn? separator before = none := by
  induction text generalizing before with
  | nil => simp [breakOn?_nil hsep] at h
  | cons c cs ih =>
    rw [breakOn?] at h
    split at h
    · cases h
      exact breakOn?_nil hsep
    · rename_i hnone
      obtain ⟨⟨inner, rest⟩, hinner, heq⟩ := Option.map_eq_some_iff.mp h
      cases heq
      have hskip : dropPrefix? separator (c :: inner) = none := by
        by_contra hfound
        obtain ⟨tail, htail⟩ := Option.ne_none_iff_exists'.mp hfound
        have htext : c :: cs = separator ++ (tail ++ separator ++ after) := by
          rw [eq_append_of_breakOn? hinner, ← List.append_assoc, ← List.append_assoc,
            ← dropPrefix?_eq_some.mp htail]
          simp
        rw [dropPrefix?_eq_some.mpr htext] at hnone
        cases hnone
      rw [breakOn?, hskip, ih hinner]
      rfl

theorem splitFrom_nil (separator : List Char) (k : Nat) : splitFrom separator k [] = ([], []) := by
  cases k <;> rfl

theorem splitFrom_skip (separator : List Char) (k : Nat) (text : List Char) :
    splitFrom separator k text = splitFrom separator 0 (text.drop k) := by
  induction text generalizing k with
  | nil => rw [List.drop_nil, splitFrom_nil, splitFrom_nil]
  | cons c cs ih =>
    cases k with
    | zero => rfl
    | succ k =>
      rw [splitFrom, List.drop_succ_cons]
      exact ih k

theorem isPrefixOf_eq_isSome (separator text : List Char) :
    separator.isPrefixOf text = (dropPrefix? separator text).isSome := by
  rw [Bool.eq_iff_iff, List.isPrefixOf_iff_prefix, Option.isSome_iff_exists]
  simp only [dropPrefix?_eq_some]
  exact ⟨fun ⟨rest, h⟩ => ⟨rest, h.symm⟩, fun ⟨rest, h⟩ => ⟨rest, h.symm⟩⟩

theorem splitFrom_of_breakOn?_none (h : breakOn? separator text = none) :
    splitFrom separator 0 text = (text, []) := by
  induction text with
  | nil => exact splitFrom_nil separator 0
  | cons c cs ih =>
    rw [breakOn?] at h
    split at h
    · cases h
    · rename_i hnone
      rw [splitFrom, isPrefixOf_eq_isSome, hnone, ih (Option.map_eq_none_iff.mp h)]
      rfl

theorem splitFrom_of_breakOn?_some (hsep : separator ≠ [])
    (h : breakOn? separator text = some (before, after)) :
    splitFrom separator 0 text =
      (before, (splitFrom separator 0 after).1 :: (splitFrom separator 0 after).2) := by
  induction text generalizing before with
  | nil => simp [breakOn?_nil hsep] at h
  | cons c cs ih =>
    rw [breakOn?] at h
    split at h
    · rename_i rest hrest
      cases h
      have hdrop : cs.drop (separator.length - 1) = after := by
        obtain ⟨s, ss, rfl⟩ := List.exists_cons_of_ne_nil hsep
        obtain ⟨-, rfl⟩ := List.cons.inj (dropPrefix?_eq_some.mp hrest)
        simp
      rw [splitFrom, isPrefixOf_eq_isSome, hrest, splitFrom_skip, hdrop]
      rfl
    · rename_i hnone
      obtain ⟨⟨inner, rest⟩, hinner, heq⟩ := Option.map_eq_some_iff.mp h
      cases heq
      rw [splitFrom, isPrefixOf_eq_isSome, hnone, ih hinner]
      rfl

theorem splitOn_of_breakOn?_some (hsep : separator ≠ [])
    (h : breakOn? separator text = some (before, after)) :
    splitOn separator text = before :: splitOn separator after := by
  rw [splitOn, splitOn, if_neg (by simpa using hsep), if_neg (by simpa using hsep),
    splitFrom_of_breakOn?_some hsep h]

theorem splitOn_of_breakOn?_none (h : breakOn? separator text = none) :
    splitOn separator text = [text] := by
  rw [splitOn]
  split_ifs
  · rfl
  · rw [splitFrom_of_breakOn?_none h]

theorem splitOn_ne_nil (separator text : List Char) : splitOn separator text ≠ [] := by
  rw [splitOn]
  split_ifs <;> simp

/-- Induction over the pieces of a text, from the last one back. -/
@[elab_as_elim]
theorem break_induction (hsep : separator ≠ []) {motive : List Char → Prop}
    (whole : ∀ text, breakOn? separator text = none → motive text)
    (parted : ∀ text before after, breakOn? separator text = some (before, after) →
      motive after → motive text) (text : List Char) : motive text := by
  induction hlength : text.length using Nat.strongRecOn generalizing text with
  | ind length ih =>
    cases hbreak : breakOn? separator text with
    | none => exact whole text hbreak
    | some pieces =>
      obtain ⟨before, after⟩ := pieces
      have hshort : after.length < length := by
        have hpos := List.length_pos_iff.mpr hsep
        rw [eq_append_of_breakOn? hbreak, List.length_append, List.length_append] at hlength
        omega
      exact parted text before after hbreak (ih _ hshort after rfl)

/-- Joining the pieces gives the text back. -/
theorem intercalate_splitOn (separator text : List Char) :
    separator.intercalate (splitOn separator text) = text := by
  by_cases hsep : separator = []
  · rw [hsep, splitOn, if_pos List.isEmpty_nil, List.intercalate_singleton]
  · induction text using break_induction hsep with
    | whole text hbreak => rw [splitOn_of_breakOn?_none hbreak, List.intercalate_singleton]
    | parted text before after hbreak ih =>
      rw [splitOn_of_breakOn?_some hsep hbreak,
        List.intercalate_cons_of_ne_nil (splitOn_ne_nil _ _), ih,
        ← eq_append_of_breakOn? hbreak]

theorem splitOn_injective {other : List Char}
    (h : splitOn separator text = splitOn separator other) : text = other := by
  rw [← intercalate_splitOn separator text, h, intercalate_splitOn]

end Text

namespace KeyPath

theorem unescapeNewlines_eq_nil {text : List Char} (h : unescapeNewlines text = []) :
    text = [] := by
  fun_cases unescapeNewlines text with
  | case1 rest => simp [unescapeNewlines] at h
  | case2 c rest hne => rw [unescapeNewlines] at h <;> simp_all
  | case3 => rfl

/-- Unescaping makes no carriage return and takes none away. -/
theorem count_unescapeNewlines (text : List Char) :
    (unescapeNewlines text).count '\r' = text.count '\r' := by
  fun_induction unescapeNewlines text with
  | case1 rest ih => simp [ih]
  | case2 c rest hplain ih => simp [List.count_cons, ih]
  | case3 => rfl

theorem unescapeNewlines_eq_of_parse {separator key other : String}
    (h : parse separator key = parse separator other) :
    unescapeNewlines key.toList = unescapeNewlines other.toList := by
  have hpieces := (List.map_inj_right fun _ _ => String.ofList_injective).mp h
  exact Text.splitOn_injective hpieces

theorem parse_ne_nil (separator raw : String) : parse separator raw ≠ [] := by
  rw [parse, ne_eq, List.map_eq_nil_iff]
  exact Text.splitOn_ne_nil _ _

end KeyPath

namespace Tree

variable {separator key : String}

theorem splitKey_of_plain (h : isJoined separator key = false) : splitKey separator key = [key] := by
  have hpieces : Text.splitOn separator.toList key.toList = [key.toList] := by
    by_cases hsep : separator.isEmpty
    · rw [Text.splitOn, if_pos]
      simpa using hsep
    · rw [isJoined, Text.contains] at h
      apply Text.splitOn_of_breakOn?_none
      simpa [hsep] using h
  simp [splitKey, hpieces]

/-- A joined key has its base key, which is plain, and more segments behind it. -/
theorem splitKey_of_joined (h : isJoined separator key) :
    isJoined separator (KeyPath.baseKey separator key) = false ∧
      ∃ next path, splitKey separator key = KeyPath.baseKey separator key :: next :: path := by
  obtain ⟨hsep, hfound⟩ := Bool.and_eq_true_iff.mp h
  have hne : separator.toList ≠ [] := by simpa using hsep
  obtain ⟨⟨before, after⟩, hbreak⟩ := Option.isSome_iff_exists.mp hfound
  have hsplit := Text.splitOn_of_breakOn?_some hne hbreak
  obtain ⟨next, pieces, hpieces⟩ :=
    List.exists_cons_of_ne_nil (Text.splitOn_ne_nil separator.toList after)
  have hbase : KeyPath.baseKey separator key = String.ofList before := by
    rw [KeyPath.baseKey, hsplit]
  refine ⟨?_, String.ofList next, pieces.map String.ofList, ?_⟩
  · simp [isJoined, Text.contains, hbase, Text.breakOn?_before hne hbreak]
  · simp [splitKey, hsplit, hpieces, hbase]

theorem ne_of_joined {k : String} (hk : isJoined separator k)
    (hplain : isJoined separator key = false) : k ≠ key := by
  rintro rfl
  rw [hplain] at hk
  cases hk

theorem ne_baseKey_of_joined {k : String} (hk : isJoined separator k)
    (hjoined : isJoined separator key) : k ≠ KeyPath.baseKey separator key :=
  ne_of_joined hk (splitKey_of_joined hjoined).1

theorem splitKey_injective {other : String}
    (h : splitKey separator key = splitKey separator other) : key = other := by
  have hpieces := (List.map_inj_right fun _ _ => String.ofList_injective).mp h
  exact String.toList_injective (Text.splitOn_injective hpieces)

def HasVariant (separator : String) (keys : List String) (key : String) : Prop :=
  ∃ other ∈ keys, isJoined separator other ∧ KeyPath.baseKey separator other = key

instance (separator : String) (keys : List String) (key : String) :
    Decidable (HasVariant separator keys key) :=
  inferInstanceAs (Decidable (∃ other ∈ keys,
    isJoined separator other ∧ KeyPath.baseKey separator other = key))

theorem HasVariant.plain {keys : List String} (h : HasVariant separator keys key) :
    isJoined separator key = false := by
  obtain ⟨other, -, hjoined, rfl⟩ := h
  exact (splitKey_of_joined hjoined).1

theorem hasVariant_append_singleton {keys : List String} {k : String} :
    HasVariant separator (keys ++ [k]) key ↔
      HasVariant separator keys key ∨ isJoined separator k ∧ KeyPath.baseKey separator k = key := by
  simp only [HasVariant, List.mem_append, List.mem_singleton, or_and_right, exists_or,
    exists_eq_left]

theorem isFlat_eq_false_iff {t : Tree} :
    t.isFlat separator = false ↔ ∀ entry ∈ t.entries, isJoined separator entry.1 = false := by
  simp [isFlat, keys]

theorem expandFlat_of_nested {separator : String} {t : Tree} (h : t.isFlat separator = false) :
    t.expandFlat separator = (t, []) := by
  rw [expandFlat, h]
  rfl

end Tree
end Phrasebook
