import Mathlib.Data.List.DropRight
import Phrasebook.Extraction

/-!
The calls in markup. The scan finds every place where a call can be read unless it lies inside of a
call that begins before it, and gives each call its place in the text.
-/
namespace Phrasebook.Markup

variable {names : List (List Char)} {name key text rest : List Char} {found : Occurrence}

def Unclosed (text : List Char) : Prop :=
  ∀ quote, isQuote quote → ¬[quote, ')'] <:+: text

/-- At a position there is a name, `(`, a quote, a key, a quote and `)`. -/
def StandsAt (text : List Char) (position : Nat) (name key : List Char) : Prop :=
  ∃ before opening closing after, before.length = position ∧ isQuote opening ∧ isQuote closing ∧
    text = before ++ (name ++ '(' :: opening :: (key ++ closing :: ')' :: after))

theorem unclosed_nil : Unclosed [] := by
  intro quote _ hinfix
  exact absurd (List.infix_nil.mp hinfix) (List.cons_ne_nil _ _)

theorem unclosed_cons_iff {c : Char} {cs : List Char} :
    Unclosed (c :: cs) ↔ ¬(isQuote c ∧ cs.head? = some ')') ∧ Unclosed cs := by
  simp only [Unclosed, List.infix_cons_iff, not_or, List.cons_prefix_cons]
  constructor
  · intro h
    refine ⟨?_, fun quote hquote => (h quote hquote).2⟩
    rintro ⟨hquote, hclose⟩
    obtain ⟨rest, rfl⟩ := List.head?_eq_some_iff.mp hclose
    exact (h c hquote).1 ⟨rfl, rest, rfl⟩
  · rintro ⟨hfront, hrest⟩ quote hquote
    refine ⟨?_, hrest quote hquote⟩
    rintro ⟨rfl, hclose⟩
    obtain ⟨rest, rfl⟩ := hclose
    exact hfront ⟨hquote, rfl⟩

theorem ne_close_of_isQuote {c : Char} (h : isQuote c) : c ≠ ')' := by
  rintro rfl
  cases h

/-- A key ends at the first quote that a closing parenthesis follows. -/
theorem key?_eq_some_iff :
    key? text = some key ↔
      ∃ closing after, isQuote closing ∧ text = key ++ closing :: ')' :: after ∧ Unclosed key := by
  fun_induction key? text generalizing key with
  | case1 c d cs hclosed =>
    obtain ⟨hquote, rfl⟩ := hclosed
    constructor
    · rintro ⟨⟩
      exact ⟨c, cs, hquote, rfl, unclosed_nil⟩
    · rintro ⟨closing, after, hclosing, htext, hkey⟩
      cases key with
      | nil => rfl
      | cons k key =>
        obtain ⟨rfl, htail⟩ := List.cons.inj htext
        obtain ⟨hfront, -⟩ := unclosed_cons_iff.mp hkey
        cases key with
        | nil => exact absurd (List.cons.inj htail).1.symm (ne_close_of_isQuote hclosing)
        | cons d key =>
          obtain ⟨rfl, -⟩ := List.cons.inj htail
          exact absurd ⟨hquote, rfl⟩ hfront
  | case2 c d cs hopen ih =>
    simp only [Option.map_eq_some_iff, ih]
    constructor
    · rintro ⟨inner, ⟨closing, after, hclosing, htext, hinner⟩, rfl⟩
      refine ⟨closing, after, hclosing, by rw [htext, List.cons_append],
        unclosed_cons_iff.mpr ⟨?_, hinner⟩⟩
      rintro ⟨hquote, hclose⟩
      obtain ⟨rest, rfl⟩ := List.head?_eq_some_iff.mp hclose
      exact hopen ⟨hquote, (List.cons.inj htext).1⟩
    · rintro ⟨closing, after, hclosing, htext, hkey⟩
      cases key with
      | nil =>
        obtain ⟨rfl, htail⟩ := List.cons.inj htext
        exact absurd ⟨hclosing, (List.cons.inj htail).1⟩ hopen
      | cons k key =>
        obtain ⟨rfl, htail⟩ := List.cons.inj htext
        exact ⟨key, ⟨closing, after, hclosing, htail, (unclosed_cons_iff.mp hkey).2⟩, rfl⟩
  | case3 text hshort =>
    simp only [reduceCtorEq, false_iff]
    rintro ⟨closing, after, hclosing, rfl, -⟩
    cases key with
    | nil => exact hshort closing ')' after rfl
    | cons k key =>
      obtain ⟨d, rest, hrest⟩ := List.exists_cons_of_ne_nil
        (List.append_ne_nil_of_right_ne_nil key (List.cons_ne_nil closing (')' :: after)))
      exact hshort k d rest (by rw [List.cons_append, hrest])

theorem exists_key? {closing : Char} (h : isQuote closing) (before after : List Char) :
    ∃ key, key? (before ++ closing :: ')' :: after) = some key := by
  induction before with
  | nil => exact ⟨[], by simp [key?, h]⟩
  | cons c before ih =>
    obtain ⟨key, hkey⟩ := ih
    obtain ⟨d, rest, hrest⟩ := List.exists_cons_of_ne_nil
      (List.append_ne_nil_of_right_ne_nil before (List.cons_ne_nil closing (')' :: after)))
    rw [hrest] at hkey
    rw [List.cons_append, hrest, key?, hkey]
    split_ifs
    · exact ⟨[], rfl⟩
    · exact ⟨c :: key, rfl⟩

theorem callOf?_eq_some_iff :
    callOf? name text = some found ↔
      ∃ opening rest key, isQuote opening ∧ text = name ++ '(' :: opening :: rest ∧
        key? rest = some key ∧ found = ⟨name, key, name.length + key.length + 4⟩ := by
  simp only [callOf?, Option.bind_eq_bind, Option.bind_eq_some_iff, Text.dropPrefix?_eq_some]
  constructor
  · rintro ⟨after, rfl, hfound⟩
    split at hfound
    · rename_i opening rest
      split_ifs at hfound with hopening
      obtain ⟨key, hkey, heq⟩ := Option.bind_eq_some_iff.mp hfound
      cases heq
      exact ⟨opening, rest, key, hopening, rfl, hkey, rfl⟩
    · cases hfound
  · rintro ⟨opening, rest, key, hopening, rfl, hkey, rfl⟩
    exact ⟨_, rfl, by simp [hopening, hkey]⟩

theorem callOf?_nil (name : List Char) : callOf? name [] = none := by
  rw [Option.eq_none_iff_forall_ne_some]
  intro found hfound
  obtain ⟨opening, rest, key, -, htext, -⟩ := callOf?_eq_some_iff.mp hfound
  simp at htext

def callOfAny? (names : List (List Char)) (text : List Char) : Option Occurrence :=
  names.findSome? (callOf? · text)

theorem callOfAny?_nil (names : List (List Char)) : callOfAny? names [] = none := by
  rw [callOfAny?, List.findSome?_eq_none_iff]
  exact fun name _ => callOf?_nil name

theorem exists_of_callOfAny? (h : callOfAny? names text = some found) :
    found.name ∈ names ∧ found.length = found.name.length + found.key.length + 4 ∧
      Unclosed found.key ∧ ∃ opening closing after, isQuote opening ∧ isQuote closing ∧
        text = found.name ++ '(' :: opening :: (found.key ++ closing :: ')' :: after) := by
  obtain ⟨name, hname, hcall⟩ := List.exists_of_findSome?_eq_some h
  obtain ⟨opening, rest, key, hopening, rfl, hkey, rfl⟩ := callOf?_eq_some_iff.mp hcall
  obtain ⟨closing, after, hclosing, rfl, hunclosed⟩ := key?_eq_some_iff.mp hkey
  exact ⟨hname, rfl, hunclosed, opening, closing, after, hopening, hclosing, rfl⟩

theorem callOfAny?_of_stands {opening closing : Char} (hname : name ∈ names)
    (hopening : isQuote opening) (hclosing : isQuote closing) (key after : List Char) :
    ∃ found, callOfAny? names
      (name ++ '(' :: opening :: (key ++ closing :: ')' :: after)) = some found := by
  obtain ⟨first, hfirst⟩ := exists_key? hclosing key after
  have hcall : callOf? name (name ++ '(' :: opening :: (key ++ closing :: ')' :: after)) =
      some ⟨name, first, name.length + first.length + 4⟩ :=
    callOf?_eq_some_iff.mpr ⟨opening, _, first, hopening, rfl, hfirst, rfl⟩
  rw [← Option.isSome_iff_exists, callOfAny?, List.findSome?_isSome_iff]
  exact ⟨name, hname, by rw [hcall]; rfl⟩

/-- What the scan finds, and where. Nothing is found in the part that is skipped. -/
theorem of_mem_occurrences {skip position place : Nat}
    (h : (place, found) ∈ occurrences names skip position text) :
    position + skip ≤ place ∧ ∃ before rest, text = before ++ rest ∧
      place = position + before.length ∧ callOfAny? names rest = some found := by
  fun_induction occurrences names skip position text with
  | case1 => cases h
  | case2 skip position c text ih =>
    obtain ⟨hplace, before, rest, rfl, hlength, hcall⟩ := ih h
    refine ⟨by omega, c :: before, rest, rfl, ?_, hcall⟩
    rw [hlength, List.length_cons]
    omega
  | case3 position c text first hfirst ih =>
    rcases List.mem_cons.mp h with heq | h
    · cases heq
      exact ⟨Nat.le_refl _, [], c :: text, rfl, rfl, hfirst⟩
    · obtain ⟨hplace, before, rest, rfl, hlength, hcall⟩ := ih h
      refine ⟨by omega, c :: before, rest, rfl, ?_, hcall⟩
      rw [hlength, List.length_cons]
      omega
  | case4 position c text hnone ih =>
    obtain ⟨hplace, before, rest, rfl, hlength, hcall⟩ := ih h
    refine ⟨by omega, c :: before, rest, rfl, ?_, hcall⟩
    rw [hlength, List.length_cons]
    omega

theorem pairwise_occurrences {skip position : Nat} :
    (occurrences names skip position text).Pairwise fun a b => a.1 + a.2.length ≤ b.1 := by
  fun_induction occurrences names skip position text with
  | case1 => exact .nil
  | case2 skip position c text ih => exact ih
  | case3 position c text first hfirst ih =>
    refine List.pairwise_cons.mpr ⟨fun later hlater => ?_, ih⟩
    have hafter := (of_mem_occurrences hlater).1
    have hlength := (exists_of_callOfAny? hfirst).2.1
    dsimp only
    omega
  | case4 position c text hnone ih => exact ih

/-- A place where a call can be read is the place of a call that is found, or inside of one. -/
theorem exists_mem_occurrences {skip position : Nat} {before : List Char}
    (hskip : skip ≤ before.length) (hcall : callOfAny? names rest = some found) :
    ∃ call ∈ occurrences names skip position (before ++ rest),
      call.1 ≤ position + before.length ∧ position + before.length < call.1 + call.2.length := by
  generalize htext : before ++ rest = text
  fun_induction occurrences names skip position text generalizing before with
  | case1 =>
    obtain ⟨-, rfl⟩ := List.append_eq_nil_iff.mp htext
    rw [callOfAny?_nil] at hcall
    cases hcall
  | case2 skip position c text ih =>
    cases before with
    | nil => simp at hskip
    | cons d before =>
      obtain ⟨-, rfl⟩ := List.cons.inj htext
      obtain ⟨call, hmem, hle, hlt⟩ := ih (Nat.le_of_succ_le_succ hskip) rfl
      rw [List.length_cons]
      exact ⟨call, hmem, by omega, by omega⟩
  | case3 position c text first hfirst ih =>
    have hlength := (exists_of_callOfAny? hfirst).2.1
    by_cases hinside : before.length < first.length
    · exact ⟨(position, first), List.mem_cons_self, by dsimp only; omega, by dsimp only; omega⟩
    · cases before with
      | nil => simp at hinside; omega
      | cons d before =>
        obtain ⟨-, rfl⟩ := List.cons.inj htext
        rw [List.length_cons] at hinside ⊢
        obtain ⟨call, hmem, hle, hlt⟩ := ih (show first.length - 1 ≤ before.length by omega) rfl
        exact ⟨call, List.mem_cons_of_mem _ hmem, by omega, by omega⟩
  | case4 position c text hnone ih =>
    cases before with
    | nil =>
      rw [List.nil_append] at htext
      subst htext
      rw [callOfAny?] at hcall
      rw [hcall] at hnone
      cases hnone
    | cons d before =>
      obtain ⟨-, rfl⟩ := List.cons.inj htext
      obtain ⟨call, hmem, hle, hlt⟩ := ih (Nat.zero_le _) rfl
      rw [List.length_cons]
      exact ⟨call, hmem, by omega, by omega⟩

/-- A line without its line break, which is a line feed or a carriage return and a line feed. The
last line of a text need not have one. -/
def IsLine (line : List Char) (text : List Char) : Prop :=
  '\n' ∉ line ∧ ∃ lineBreak below, text = line ++ lineBreak ++ below ∧
    (lineBreak = ['\r', '\n'] ∨ (lineBreak = ['\n'] ∧ line.getLast? ≠ some '\r') ∨
      (lineBreak = [] ∧ below = []))

/-- The line of a position, its column and the text of its line, where lines end at line feeds and
columns are counted in characters. -/
def PlaceOf (text : List Char) (position : Nat) (site : Site) : Prop :=
  ∃ above before, text.take position = above ++ before ∧
    (above = [] ∨ above.getLast? = some '\n') ∧ '\n' ∉ before ∧
    site.line = 1 + (text.take position).count '\n' ∧ site.column = 1 + before.length ∧
    IsLine site.sourceLine.toList (text.drop above.length)

theorem isLine_firstLine (text : List Char) : IsLine (firstLine text) text := by
  have hall {line : List Char} (h : '\n' ∉ line) : ∀ c ∈ line, decide (c ≠ '\n') := by
    intro c hc
    exact decide_eq_true fun heq => h (heq ▸ hc)
  by_cases hbreak : '\n' ∈ text
  · obtain ⟨line, below, rfl, hline⟩ := List.eq_append_cons_of_mem hbreak
    have htake : (line ++ '\n' :: below).takeWhile (· ≠ '\n') = line := by
      rw [List.takeWhile_append_of_pos (hall hline)]
      simp
    simp only [firstLine, htake]
    split_ifs with hreturn
    · obtain ⟨front, rfl⟩ := List.getLast?_eq_some_iff.mp hreturn.2
      rw [List.dropLast_concat]
      exact ⟨fun hmem => hline (List.mem_append_left _ hmem), ['\r', '\n'], below, by simp,
        .inl rfl⟩
    · refine ⟨hline, ['\n'], below, by simp, .inr (.inl ⟨rfl, fun hlast => hreturn ⟨?_, hlast⟩⟩)⟩
      simp
  · have htake : text.takeWhile (· ≠ '\n') = text := List.takeWhile_eq_self_iff.mpr (hall hbreak)
    simp only [firstLine, htake, Nat.lt_irrefl, false_and, if_false]
    exact ⟨hbreak, [], [], by simp, .inr (.inr ⟨rfl, rfl⟩)⟩

theorem placeOf_siteOf (file : String) {position : Nat} (h : position ≤ text.length) :
    PlaceOf text position (siteOf file text position) := by
  let front := text.take position
  have hsplit : front.rdropWhile (· ≠ '\n') ++ front.rtakeWhile (· ≠ '\n') = front :=
    List.rdropWhile_append_rtakeWhile
  have hcolumn : (front.reverse.takeWhile (· ≠ '\n')).length =
      (front.rtakeWhile (· ≠ '\n')).length := by
    rw [List.rtakeWhile, List.length_reverse]
  have hstart : position - (front.rtakeWhile (· ≠ '\n')).length =
      (front.rdropWhile (· ≠ '\n')).length := by
    have hlength := congrArg List.length hsplit
    rw [List.length_append, List.length_take_of_le h] at hlength
    omega
  refine ⟨front.rdropWhile (· ≠ '\n'), front.rtakeWhile (· ≠ '\n'), hsplit.symm, ?_, ?_,
    Nat.add_comm .., ?_, ?_⟩
  · by_cases hnil : front.rdropWhile (· ≠ '\n') = []
    · exact .inl hnil
    · have hlast := List.rdropWhile_last_not _ _ hnil
      rw [List.getLast?_eq_getLast_of_ne_nil hnil]
      exact .inr (congrArg some (by simpa using hlast))
  · intro hmem
    simpa using List.mem_rtakeWhile_imp hmem
  · rw [siteOf, hcolumn]
    exact Nat.add_comm ..
  · simp only [siteOf, front, hcolumn, hstart, String.toList_ofList]
    exact isLine_firstLine _

def reportAt (file : String) (text : List Char) (position : Nat) (found : Occurrence) : Call where
  site := siteOf file text position
  callee := String.ofList (found.name.takeWhile (· ≠ '('))
  key := String.ofList found.key
  substitutions := none
  tags := []
  origin := .markup

theorem calls_eq (functions : List String) (file : String) (text : List Char) :
    calls functions file text =
      (occurrences (functions.map String.toList) 0 0 text).map fun call =>
        reportAt file text call.1 call.2 :=
  rfl

def span (call : Call) : Nat :=
  call.callee.toList.length + call.key.toList.length + 4

variable {functions : List String}

theorem callee_reportAt (hnames : ∀ name ∈ functions, '(' ∉ name.toList)
    (hname : found.name ∈ functions.map String.toList) (file : String) (text : List Char)
    (position : Nat) : (reportAt file text position found).callee.toList = found.name := by
  obtain ⟨name, hmem, heq⟩ := List.mem_map.mp hname
  rw [reportAt, String.toList_ofList, List.takeWhile_eq_self_iff, ← heq]
  exact fun c hc => decide_eq_true fun hparen => hnames name hmem (hparen ▸ hc)

theorem span_reportAt (hnames : ∀ name ∈ functions, '(' ∉ name.toList)
    (hcall : callOfAny? (functions.map String.toList) rest = some found) (file : String)
    (text : List Char) (position : Nat) :
    span (reportAt file text position found) = found.length := by
  obtain ⟨hname, hlength, -⟩ := exists_of_callOfAny? hcall
  rw [span, callee_reportAt hnames hname, hlength, reportAt, String.toList_ofList]

/-- The calls in a markup text do not overlap and stand in the order of their positions, each with
its key, which ends as early as it can, and with its place. Wherever a call can be read, one of them
begins or goes on. -/
theorem markup_calls_found (hnames : ∀ name ∈ functions, '(' ∉ name.toList) (file code : String) :
    ∃ found : List (Nat × Call),
      Extraction.ofFile functions .markup file code = .ok ⟨file, found.map Prod.snd, []⟩ ∧
      (found.Pairwise fun a b => a.1 + span a.2 ≤ b.1) ∧
      (∀ call ∈ found, call.2.callee ∈ functions ∧
        StandsAt code.toList call.1 call.2.callee.toList call.2.key.toList ∧
        Unclosed call.2.key.toList ∧ call.2.site.file = file ∧
        PlaceOf code.toList call.1 call.2.site) ∧
      ∀ name ∈ functions, ∀ position key, StandsAt code.toList position name.toList key →
        ∃ call ∈ found, call.1 ≤ position ∧ position < call.1 + span call.2 := by
  refine ⟨(occurrences (functions.map String.toList) 0 0 code.toList).map fun call =>
    (call.1, reportAt file code.toList call.1 call.2), ?_, ?_, ?_, ?_⟩
  · rw [Extraction.ofFile, calls_eq, List.map_map]
    rfl
  · rw [List.pairwise_map]
    refine pairwise_occurrences.imp_of_mem fun {a b} ha _ hle => ?_
    obtain ⟨-, before, rest, -, -, hcall⟩ := of_mem_occurrences ha
    rwa [span_reportAt hnames hcall]
  · simp only [List.forall_mem_map]
    rintro ⟨position, found⟩ hmem
    obtain ⟨-, before, rest, htext, hposition, hcall⟩ := of_mem_occurrences hmem
    obtain ⟨hname, -, hkey, opening, closing, after, hopening, hclosing, hrest⟩ :=
      exists_of_callOfAny? hcall
    rw [Nat.zero_add] at hposition
    have hcallee := callee_reportAt hnames hname file code.toList position
    have hkeyText : (reportAt file code.toList position found).key.toList = found.key :=
      String.toList_ofList
    have hwithin : position ≤ code.toList.length := by
      rw [htext, hposition, List.length_append]
      omega
    refine ⟨?_, ?_, by rwa [hkeyText], rfl, placeOf_siteOf file hwithin⟩
    · obtain ⟨name, hmem, heq⟩ := List.mem_map.mp hname
      rw [← heq] at hcallee
      rwa [String.toList_injective hcallee]
    · rw [hcallee, hkeyText]
      exact ⟨before, opening, closing, after, hposition.symm, hopening, hclosing,
        by rw [htext, hrest]⟩
  · rintro name hname position key ⟨before, opening, closing, after, rfl, hopening, hclosing, htext⟩
    obtain ⟨first, hfirst⟩ :=
      callOfAny?_of_stands (List.mem_map_of_mem hname) hopening hclosing key after
    obtain ⟨⟨place, found⟩, hmem, hle, hlt⟩ := exists_mem_occurrences
      (Nat.zero_le before.length) hfirst
    rw [← htext] at hmem
    obtain ⟨-, skipped, rest, -, -, hcall⟩ := of_mem_occurrences hmem
    refine ⟨_, List.mem_map_of_mem hmem, ?_⟩
    rw [span_reportAt hnames hcall]
    dsimp only at hle hlt ⊢
    omega

/-- A call inside the key of another one is not found on its own. -/
theorem call_inside_key_found :
    let functions := ["_t", "_td"]
    let code := "\u00e9\r\n _td('x_t(\"y')\")"
    (∀ name ∈ functions, '(' ∉ name.toList) ∧
      StandsAt code.toList 10 "_t".toList "y".toList ∧
      ∃ found : List (Nat × Call),
        Extraction.ofFile functions .markup "a.html" code =
          .ok ⟨"a.html", found.map Prod.snd, []⟩ ∧
        found.length = 1 ∧ ∃ call ∈ found, call.1 ≤ 10 ∧ 10 < call.1 + span call.2 := by
  intro functions code
  have hnames : ∀ name ∈ functions, '(' ∉ name.toList := by decide
  have hstands : StandsAt code.toList 10 "_t".toList "y".toList :=
    ⟨"\u00e9\r\n _td('x".toList, '"', '\'', "\")".toList, by decide, by decide, by decide,
      by decide⟩
  obtain ⟨found, hfound, -, -, hcover⟩ := markup_calls_found hnames "a.html" code
  have hlength : (Extraction.ofFile functions .markup "a.html" code).map (·.calls.length) =
      .ok 1 := by decide
  rw [hfound] at hlength
  refine ⟨hnames, hstands, found, hfound, by simpa [Except.map] using hlength,
    hcover "_t" (by decide) 10 _ hstands⟩

end Phrasebook.Markup
