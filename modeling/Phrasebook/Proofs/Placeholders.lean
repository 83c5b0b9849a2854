import Mathlib.Data.List.TakeWhile
import Mathlib.Tactic.Common
import Phrasebook.Placeholder
import Phrasebook.Proofs.FirstSeen

/-!
The grammar of phrases with placeholders. A text is well formed when it is a sequence of pieces; a
percent sign that begins no piece is where the scan stops.
-/
namespace Phrasebook.Placeholder

def IsNameChar (c : Char) : Prop :=
  c ∉ [')', '%', '\n', '\r', '\u2028', '\u2029']

instance : DecidablePred IsNameChar := fun c =>
  inferInstanceAs (Decidable (c ∉ [')', '%', '\n', '\r', '\u2028', '\u2029']))

/-- A piece of a well-formed text: a character, a doubled percent sign, or a placeholder. -/
inductive Piece where
  | plain (c : Char) (h : c ≠ '%')
  | percent
  | placeholder (name : List Char) (h : ∀ c ∈ name, IsNameChar c)

namespace Piece

def text : Piece → List Char
  | plain c _ => [c]
  | percent => ['%', '%']
  | placeholder name _ => '%' :: '(' :: (name ++ [')', 's'])

def name? : Piece → Option (List Char)
  | placeholder name _ => some name
  | _ => none

def textOf (pieces : List Piece) : List Char :=
  pieces.flatMap text

def namesOf (pieces : List Piece) : List (List Char) :=
  pieces.filterMap name?

end Piece

/-- Whether no piece begins at a percent sign, by the text behind it. -/
def Offends (after : List Char) : Prop :=
  ∀ piece : Piece, ¬piece.text <+: '%' :: after

def WrongFormat (after : List Char) (c : Char) : Prop :=
  c ∉ ['s', '%', '\n', '\r', '\u2028', '\u2029'] ∧
    ∃ name : List Char, (∀ d ∈ name, IsNameChar d) ∧ '(' :: (name ++ [')', c]) <+: after

/-- The fault of a percent sign that begins no piece, by the text behind it. -/
inductive Blames (after : List Char) : Fault → Prop
  | format {c : Char} (h : WrongFormat after c) : Blames after (.format c)
  | malformed (h : ∀ c, ¬WrongFormat after c) :
    Blames after (.malformed ('%' :: after.takeWhile (· ≠ '%')))

section Specifiers

variable {name text after rest : List Char} {c : Char}

theorem isNameChar_iff :
    IsNameChar c ↔ (c ≠ ')' ∧ Text.isLineBreak c = false) ∧ c ≠ '%' := by
  simp [IsNameChar, Text.isLineBreak]
  tauto

theorem prefix_takeWhile_iff {α : Type} {p : α → Bool} {front l : List α} :
    front <+: l.takeWhile p ↔ (∀ a ∈ front, p a) ∧ front <+: l := by
  induction front generalizing l with
  | nil => simp
  | cons a front ih =>
    cases l with
    | nil => simp
    | cons b l =>
      by_cases hb : p b
      · rw [List.takeWhile_cons_of_pos hb, List.cons_prefix_cons, List.cons_prefix_cons, ih,
          List.forall_mem_cons]
        constructor
        · rintro ⟨rfl, hfront, hpre⟩
          exact ⟨⟨hb, hfront⟩, rfl, hpre⟩
        · rintro ⟨⟨-, hfront⟩, rfl, hpre⟩
          exact ⟨rfl, hfront, hpre⟩
      · rw [List.takeWhile_cons_of_neg hb, List.cons_prefix_cons, List.forall_mem_cons]
        constructor
        · intro h
          cases List.prefix_nil.mp h
        · rintro ⟨⟨ha, -⟩, rfl, -⟩
          exact absurd ha hb

theorem drop_length_takeWhile {α : Type} (p : α → Bool) (l : List α) :
    l.drop (l.takeWhile p).length = l.dropWhile p := by
  calc l.drop (l.takeWhile p).length
      = (l.takeWhile p ++ l.dropWhile p).drop (l.takeWhile p).length := by
        rw [List.takeWhile_append_dropWhile]
    _ = l.dropWhile p := List.drop_left

theorem specifier?_eq_some_iff :
    specifier? text = some (name, c) ↔
      ((∀ d ∈ name, d ≠ ')' ∧ Text.isLineBreak d = false) ∧ Text.isLineBreak c = false) ∧
        '(' :: (name ++ [')', c]) <+: text := by
  constructor
  · intro h
    rw [specifier?.eq_def] at h
    split at h
    · rename_i rest
      simp only [drop_length_takeWhile] at h
      split at h
      · rename_i d tail hdrop
        split_ifs at h with hbreak
        cases h
        refine ⟨⟨fun d hd => ?_, by simpa using hbreak⟩, ?_⟩
        · simpa using List.mem_takeWhile_imp hd
        · rw [List.cons_prefix_cons]
          refine ⟨rfl, tail, ?_⟩
          rw [List.append_assoc, List.cons_append, List.singleton_append, ← hdrop,
            List.takeWhile_append_dropWhile]
      · cases h
    · cases h
  · rintro ⟨⟨hname, hc⟩, rest, rfl⟩
    have hin : ∀ d ∈ name, (!decide (d = ')') && !Text.isLineBreak d) = true := by
      simpa using hname
    simp [specifier?, List.takeWhile_append_of_pos hin, hc]

/-- A specifier is read from a text that is cut off at the next percent sign. -/
theorem specifier?_takeWhile_iff :
    specifier? (after.takeWhile (· ≠ '%')) = some (name, c) ↔
      (∀ d ∈ name, IsNameChar d) ∧ (Text.isLineBreak c = false ∧ c ≠ '%') ∧
        '(' :: (name ++ [')', c]) <+: after := by
  have hfree : (∀ d ∈ '(' :: (name ++ [')', c]), decide (d ≠ '%') = true) ↔
      (∀ d ∈ name, d ≠ '%') ∧ c ≠ '%' := by
    simp [or_imp, forall_and]
  rw [specifier?_eq_some_iff, prefix_takeWhile_iff, hfree]
  simp only [isNameChar_iff]
  constructor
  · rintro ⟨⟨hname, hc⟩, ⟨hfree, hpercent⟩, hpre⟩
    exact ⟨fun d hd => ⟨hname d hd, hfree d hd⟩, ⟨hc, hpercent⟩, hpre⟩
  · rintro ⟨hname, ⟨hc, hpercent⟩, hpre⟩
    exact ⟨⟨fun d hd => (hname d hd).1, hc⟩, ⟨fun d hd => (hname d hd).2, hpercent⟩, hpre⟩

theorem wrongFormat_iff :
    WrongFormat after c ↔
      c ≠ 's' ∧ ∃ name, specifier? (after.takeWhile (· ≠ '%')) = some (name, c) := by
  have hc : c ∉ ['s', '%', '\n', '\r', '\u2028', '\u2029'] ↔
      c ≠ 's' ∧ Text.isLineBreak c = false ∧ c ≠ '%' := by
    simp [Text.isLineBreak]
    tauto
  simp only [specifier?_takeWhile_iff, WrongFormat, hc]
  constructor
  · rintro ⟨⟨hs, hformat⟩, name, hname, hpre⟩
    exact ⟨hs, name, hname, hformat, hpre⟩
  · rintro ⟨hs, name, hname, hformat, hpre⟩
    exact ⟨⟨hs, hformat⟩, name, hname, hpre⟩

end Specifiers

section Steps

variable {name after rest : List Char} {c : Char} {fault : Fault}

theorem scan_plain (h : c ≠ '%') (rest : List Char) : scan (c :: rest) = scan rest := by
  rw [scan.eq_def]
  exact if_neg h

/-- Characters in front of the next percent sign do not count. -/
theorem scan_dropWhile (text : List Char) : scan (text.dropWhile (· ≠ '%')) = scan text := by
  induction text with
  | nil => rfl
  | cons c text ih =>
    by_cases hc : c = '%'
    · rw [List.dropWhile_cons_of_neg (by simpa using hc)]
    · rw [List.dropWhile_cons_of_pos (by simpa using hc), ih, scan_plain hc]

theorem scan_percent (rest : List Char) : scan ('%' :: '%' :: rest) = scan rest := by
  rw [scan.eq_def]
  exact if_pos rfl

/-- At a single percent sign the specifier behind it decides. -/
theorem scan_specifier (h : after.head? ≠ some '%') :
    scan ('%' :: after) =
      match specifier? (after.takeWhile (· ≠ '%')) with
      | none => .error (.malformed ('%' :: after.takeWhile (· ≠ '%')))
      | some (name, format) =>
        if format = 's' then (scan (after.dropWhile (· ≠ '%'))).map (name :: ·)
        else .error (.format format) := by
  rw [← drop_length_takeWhile, scan.eq_def]
  refine (if_pos rfl).trans ?_
  split
  · exact absurd rfl h
  · rfl

theorem scan_placeholder (h : ∀ d ∈ name, IsNameChar d) (rest : List Char) :
    scan ('%' :: '(' :: (name ++ [')', 's'] ++ rest)) = (scan rest).map (name :: ·) := by
  have hread : specifier? (('(' :: (name ++ [')', 's'] ++ rest)).takeWhile (· ≠ '%')) =
      some (name, 's') :=
    specifier?_takeWhile_iff.mpr ⟨h, by decide, rest, rfl⟩
  have hfree : ∀ d ∈ '(' :: (name ++ [')', 's']), decide (d ≠ '%') = true := by
    simp only [List.forall_mem_cons, List.forall_mem_append, decide_eq_true_eq]
    exact ⟨by decide, fun d hd => (isNameChar_iff.mp (h d hd)).2, by decide, by decide, nofun⟩
  rw [scan_specifier (by simp), hread]
  simp only [if_pos]
  rw [← List.cons_append, List.dropWhile_append_of_pos hfree, scan_dropWhile]

/-- A percent sign that begins no piece ends the scan with the fault it is to blame for. -/
theorem scan_offending (h : Offends after) :
    scan ('%' :: after) = .error fault ↔ Blames after fault := by
  have hhead : after.head? ≠ some '%' := by
    intro hhead
    obtain ⟨rest, rfl⟩ := List.head?_eq_some_iff.mp hhead
    exact h .percent ⟨rest, rfl⟩
  rw [scan_specifier hhead]
  cases hread : specifier? (after.takeWhile (· ≠ '%')) with
  | none =>
    have hnone (c : Char) : ¬WrongFormat after c := by
      rw [wrongFormat_iff, hread]
      simp
    constructor
    · rintro ⟨⟩
      exact .malformed hnone
    · rintro (hformat | -)
      · exact absurd hformat (hnone _)
      · rfl
  | some found =>
    obtain ⟨name, format⟩ := found
    have hformat : format ≠ 's' := by
      rintro rfl
      obtain ⟨hname, -, hpre⟩ := specifier?_takeWhile_iff.mp hread
      exact h (.placeholder name hname) (List.cons_prefix_cons.mpr ⟨rfl, hpre⟩)
    have hwrong (c : Char) : WrongFormat after c ↔ c = format := by
      rw [wrongFormat_iff, hread]
      constructor
      · rintro ⟨-, name, ⟨⟩⟩
        rfl
      · rintro rfl
        exact ⟨hformat, name, rfl⟩
    simp only [if_neg hformat]
    constructor
    · rintro ⟨⟩
      exact .format ((hwrong format).mpr rfl)
    · rintro (hother | hnone)
      · rw [(hwrong _).mp hother]
      · exact absurd ((hwrong format).mpr rfl) (hnone format)

theorem exists_blames (after : List Char) : ∃ fault, Blames after fault := by
  by_cases hformat : ∃ c, WrongFormat after c
  · obtain ⟨c, hc⟩ := hformat
    exact ⟨_, .format hc⟩
  · exact ⟨_, .malformed (not_exists.mp hformat)⟩

theorem scan_piece (piece : Piece) (rest : List Char) :
    scan (piece.text ++ rest) = (scan rest).map (piece.name?.toList ++ ·) := by
  have hkeep : (scan rest).map ([] ++ ·) = scan rest := by cases scan rest <;> rfl
  cases piece with
  | plain c h => exact (scan_plain h rest).trans hkeep.symm
  | percent => exact (scan_percent rest).trans hkeep.symm
  | placeholder name h => exact scan_placeholder h rest

end Steps

theorem scan_textOf (pieces : List Piece) (rest : List Char) :
    scan (Piece.textOf pieces ++ rest) = (scan rest).map (Piece.namesOf pieces ++ ·) := by
  induction pieces with
  | nil =>
    change scan rest = _
    cases scan rest <;> rfl
  | cons piece pieces ih =>
    have htext : Piece.textOf (piece :: pieces) ++ rest =
        piece.text ++ (Piece.textOf pieces ++ rest) := List.append_assoc _ _ _
    have hnames : Piece.namesOf (piece :: pieces) = piece.name?.toList ++ Piece.namesOf pieces := by
      cases piece <;> rfl
    rw [htext, scan_piece, ih, hnames]
    cases scan rest with
    | error fault => rfl
    | ok found => simp [Except.map]

/-- Every text is well formed up to the first percent sign that begins no piece, if there is one. -/
theorem exists_pieces (text : List Char) :
    ∃ pieces, text = Piece.textOf pieces ∨
      ∃ after, text = Piece.textOf pieces ++ '%' :: after ∧ Offends after := by
  induction hlength : text.length using Nat.strongRecOn generalizing text with
  | ind length ih =>
    by_cases hpiece : ∃ piece : Piece, piece.text <+: text
    · obtain ⟨piece, rest, rfl⟩ := hpiece
      have hshort : rest.length < length := by
        have hpos : 0 < piece.text.length := by cases piece <;> simp [Piece.text]
        rw [← hlength, List.length_append]
        omega
      obtain ⟨pieces, hrest⟩ := ih _ hshort rest rfl
      refine ⟨piece :: pieces, hrest.imp ?_ ?_⟩
      · rintro rfl
        rfl
      · rintro ⟨after, rfl, hoffends⟩
        exact ⟨after, (List.append_assoc _ _ _).symm, hoffends⟩
    · refine ⟨[], ?_⟩
      cases text with
      | nil => exact .inl rfl
      | cons c rest =>
        have hc : c = '%' := by
          by_contra hc
          exact hpiece ⟨.plain c hc, rest, rfl⟩
        subst hc
        exact .inr ⟨rest, rfl, fun piece hpre => hpiece ⟨piece, hpre⟩⟩

theorem scan_wellFormed (pieces : List Piece) :
    scan (Piece.textOf pieces) = .ok (Piece.namesOf pieces) := by
  have hscan := scan_textOf pieces []
  rw [List.append_nil] at hscan
  rw [hscan]
  simp [scan, Except.map]

theorem scan_stopped {after : List Char} {fault : Fault} (pieces : List Piece)
    (h : Offends after) :
    scan (Piece.textOf pieces ++ '%' :: after) = .error fault ↔ Blames after fault := by
  rw [scan_textOf, ← scan_offending h]
  cases scan ('%' :: after) <;> simp [Except.map]

theorem scan_eq_error_iff {text : List Char} {fault : Fault} :
    scan text = .error fault ↔
      ∃ pieces after, text = Piece.textOf pieces ++ '%' :: after ∧ Offends after ∧
        Blames after fault := by
  constructor
  · intro hscan
    obtain ⟨pieces, rfl | ⟨after, rfl, hoffends⟩⟩ := exists_pieces text
    · rw [scan_wellFormed] at hscan
      cases hscan
    · exact ⟨pieces, after, rfl, hoffends, (scan_stopped pieces hoffends).mp hscan⟩
  · rintro ⟨pieces, after, rfl, hoffends, hblames⟩
    exact (scan_stopped pieces hoffends).mpr hblames

theorem scan_eq_ok_iff {text : List Char} {found : List (List Char)} :
    scan text = .ok found ↔
      ∃ pieces, text = Piece.textOf pieces ∧ Piece.namesOf pieces = found := by
  constructor
  · intro hscan
    obtain ⟨pieces, rfl | ⟨after, rfl, hoffends⟩⟩ := exists_pieces text
    · rw [scan_wellFormed] at hscan
      exact ⟨pieces, rfl, Except.ok.inj hscan⟩
    · obtain ⟨fault, hblames⟩ := exists_blames after
      rw [(scan_stopped pieces hoffends).mpr hblames] at hscan
      cases hscan
  · rintro ⟨pieces, rfl, rfl⟩
    exact scan_wellFormed pieces

/-- The names of a text are read exactly if it is a sequence of pieces, and then they are the names
of its placeholders, each once, as they are first seen. Otherwise the fault is that of the first
percent sign that begins no piece: everything before it is well formed. -/
theorem names_grammar (text : String) :
    ((∃ found, names text = .ok found) ↔ ∃ pieces, text.toList = Piece.textOf pieces) ∧
      (∀ found, names text = .ok found ↔ ∃ pieces, text.toList = Piece.textOf pieces ∧
        FirstSeen ((Piece.namesOf pieces).map String.ofList) found) ∧
      ∀ fault, names text = .error fault ↔ ∃ pieces after,
        text.toList = Piece.textOf pieces ++ '%' :: after ∧ Offends after ∧
          Blames after fault := by
  have hok (found : List String) : names text = .ok found ↔ ∃ pieces,
      text.toList = Piece.textOf pieces ∧
        FirstSeen ((Piece.namesOf pieces).map String.ofList) found := by
    simp only [firstSeen_iff]
    rw [names]
    constructor
    · intro hnames
      cases hscan : scan text.toList with
      | error fault => simp [hscan, Except.map] at hnames
      | ok all =>
        obtain ⟨pieces, htext, rfl⟩ := scan_eq_ok_iff.mp hscan
        rw [hscan] at hnames
        exact ⟨pieces, htext, (Except.ok.inj hnames).symm⟩
    · rintro ⟨pieces, htext, rfl⟩
      rw [htext, scan_wellFormed]
      rfl
  refine ⟨?_, hok, fun fault => ?_⟩
  · constructor
    · rintro ⟨found, hfound⟩
      obtain ⟨pieces, htext, -⟩ := (hok found).mp hfound
      exact ⟨pieces, htext⟩
    · rintro ⟨pieces, htext⟩
      exact ⟨_, (hok _).mpr ⟨pieces, htext, firstSeen_iff.mpr rfl⟩⟩
  · rw [← scan_eq_error_iff, names]
    cases scan text.toList <;> simp [Except.map]

end Phrasebook.Placeholder
