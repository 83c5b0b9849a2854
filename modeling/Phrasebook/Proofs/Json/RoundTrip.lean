import Phrasebook.Json.Printer
import Phrasebook.Proofs.Json.Reading

/-!
Written JSON is read back, in either layout and whatever text follows. The statements are about
values made of strings and objects only.
-/
namespace Phrasebook.Json

theorem hexValue?_hexDigit {n : Nat} (h : n < 16) : Text.hexValue? (Text.hexDigit n) = some n := by
  decide +revert

theorem utf8Size_hexDigit {n : Nat} (h : n < 16) : (Text.hexDigit n).utf8Size = 1 := by
  decide +revert

theorem readHex_control {n : Nat} (h : n < 0x20) (s : List Char) :
    readHex ('0' :: '0' :: Text.hexDigit (n / 16) :: Text.hexDigit (n % 16) :: s) = .ok (n, s) := by
  have hhi : n / 16 < 16 := by omega
  have hlo : n % 16 < 16 := by omega
  have hsize : byteLength ['0', '0', Text.hexDigit (n / 16), Text.hexDigit (n % 16)] = 4 := by
    have hzero : '0'.utf8Size = 1 := by decide
    simp only [byteLength, List.foldr_cons, List.foldr_nil, hzero, utf8Size_hexDigit hhi,
      utf8Size_hexDigit hlo]
  have hzero : Text.hexValue? '0' = some 0 := by decide
  simp [readHex, hsize, hzero, hexValue?_hexDigit hhi, hexValue?_hexDigit hlo]
  omega

theorem readUnicode_of_readHex {s rest : List Char} {n : Nat} (h : n < 0xd800)
    (hread : readHex s = .ok (n, rest)) : readUnicode s = .ok (Char.ofNat n, rest) := by
  have hlow : ¬(0xdc00 ≤ n ∧ n ≤ 0xdfff) := by omega
  have hhigh : n < 0xd800 ∨ 0xdbff < n := by omega
  simp only [readUnicode, hread, bind, Except.bind, if_neg hlow, if_pos hhigh]

theorem readChars_of_readEscape {s rest : List Char} {c : Char} (h : readEscape s = .ok (c, rest))
    (b : Char) (bound : List Char) :
    readChars (b :: bound) ('\\' :: s) =
      (readChars bound rest).map fun (cs, s) => (c :: cs, s) := by
  simp [readChars, h]

/-- Whatever stands for a character in a written string is read back as that character. -/
theorem readChars_escapeChar (c b : Char) (bound s : List Char) :
    readChars (b :: bound) (escapeChar c ++ s) =
      (readChars bound s).map fun (cs, s) => (c :: cs, s) := by
  unfold escapeChar
  split
  case h_8 _ hquote hslash _ _ _ _ _ =>
    split_ifs with hcontrol
    · have hread := readUnicode_of_readHex (by omega) (readHex_control hcontrol s)
      rw [Char.ofNat_toNat] at hread
      exact readChars_of_readEscape (by simpa [readEscape] using hread) b bound
    · have hq : c ≠ '"' := fun h => hquote h
      have hs : c ≠ '\\' := fun h => hslash h
      simp [readChars, hq, hs, hcontrol]
  all_goals exact readChars_of_readEscape rfl b bound

theorem escapeChar_ne_nil (c : Char) : escapeChar c ≠ [] := by
  unfold escapeChar
  split
  case h_8 => split_ifs <;> simp
  all_goals simp

/-- The text of a string ends at the quote behind it. -/
theorem readChars_flatMap_escapeChar (cs bound after : List Char)
    (h : (cs.flatMap escapeChar ++ '"' :: after).length ≤ bound.length) :
    readChars bound (cs.flatMap escapeChar ++ '"' :: after) = .ok (cs, after) := by
  induction cs generalizing bound with
  | nil =>
    cases bound with
    | nil => simp at h
    | cons b bound => simp [readChars]
  | cons c cs ih =>
    cases bound with
    | nil => simp at h
    | cons b bound =>
      have hc := List.length_pos_iff.mpr (escapeChar_ne_nil c)
      have hlen : (cs.flatMap escapeChar ++ '"' :: after).length ≤ bound.length := by
        simp only [List.flatMap_cons, List.append_assoc, List.length_append,
          List.length_cons] at h ⊢
        omega
      rw [List.flatMap_cons, List.append_assoc, readChars_escapeChar, ih bound hlen]
      rfl

theorem readString_written (s : String) (after : List Char) :
    readString (s.toList.flatMap escapeChar ++ '"' :: after) = .ok (s, after) := by
  rw [readString, readChars_flatMap_escapeChar _ _ _ (Nat.le_refl _)]
  simp [Except.map]

theorem skipBlanks_of_not_isBlank {c : Char} (h : isBlank c = false) (s : List Char) :
    skipBlanks (c :: s) = c :: s := by
  simp [skipBlanks, h]

theorem skipBlanks_breakLine (layout : Layout) (level : Nat) {c : Char} (h : isBlank c = false)
    (s : List Char) : skipBlanks (layout.breakLine level (c :: s)) = c :: s := by
  cases layout with
  | compact => exact skipBlanks_of_not_isBlank h s
  | indented width =>
    have hspaces : ∀ b ∈ List.replicate (width * level) ' ', isBlank b = true := by
      intro b hb
      rw [List.eq_of_mem_replicate hb]
      rfl
    rw [Layout.breakLine, skipBlanks, List.dropWhile_cons_of_pos rfl,
      List.dropWhile_append_of_pos hspaces]
    exact skipBlanks_of_not_isBlank h s

theorem nextKey_brace (first : Bool) (layout : Layout) (level : Nat) (s : List Char) :
    nextKey first (layout.breakLine level ('}' :: s)) = .ok (none, s) := by
  simp [nextKey, skipBlanks_breakLine layout level (show isBlank '}' = false by decide)]

theorem nextKey_first (layout : Layout) (level : Nat) (key : String) (s : List Char) :
    nextKey true (layout.breakLine level (writeString key s)) = .ok (some key, s) := by
  rw [nextKey, writeString, List.cons_append, skipBlanks_breakLine layout level (by decide)]
  simp [readString_written, Except.map]

theorem nextKey_comma (layout : Layout) (level : Nat) (key : String) (s : List Char) :
    nextKey false (',' :: layout.breakLine level (writeString key s)) = .ok (some key, s) := by
  rw [nextKey, skipBlanks_of_not_isBlank (by decide), writeString, List.cons_append]
  have hquote : isBlank '"' = false := by decide
  simp [skipBlanks_breakLine layout level hquote, readString_written, Except.map]

/-- Only blanks stand between a colon and the value behind it. -/
theorem readColon_colon (layout : Layout) (s : List Char) :
    ∃ rest, readColon (layout.colon s) = .ok ((), rest) ∧ skipBlanks rest = skipBlanks s := by
  cases layout with
  | compact => exact ⟨s, by simp [readColon, Layout.colon, skipBlanks_of_not_isBlank, isBlank], rfl⟩
  | indented width =>
    exact ⟨' ' :: s, by simp [readColon, Layout.colon, skipBlanks_of_not_isBlank, isBlank],
      by simp [skipBlanks, isBlank]⟩

theorem readValue_congr {s s' : List Char} (h : skipBlanks s = skipBlanks s') (fuel depth : Nat) :
    readValue (fuel + 1) depth s = readValue (fuel + 1) depth s' := by
  simp only [readValue, h]


theorem breakLine_append (layout : Layout) (level : Nat) (s t : List Char) :
    layout.breakLine level (s ++ t) = layout.breakLine level s ++ t := by
  cases layout <;> simp [Layout.breakLine]

theorem colon_append (layout : Layout) (s t : List Char) :
    layout.colon (s ++ t) = layout.colon s ++ t := by
  cases layout <;> simp [Layout.colon]

theorem writeString_append (text : String) (s t : List Char) :
    writeString text (s ++ t) = writeString text s ++ t := by
  simp [writeString]

mutual

/-- What is written for a value does not depend on the text behind it. -/
theorem write_append (layout : Layout) (level : Nat) (value : Value) (s t : List Char) :
    write layout level value (s ++ t) = write layout level value s ++ t := by
  match value with
  | .null | .bool true | .bool false | .number _ => rw [write, write, List.append_assoc]
  | .string text => rw [write, write, writeString_append]
  | .array [] | .object [] => rw [write, write, List.cons_append, List.cons_append]
  | .array (item :: items) =>
    rw [write, write, writeItems_append, write_append, breakLine_append, List.cons_append]
  | .object ((key, item) :: members) =>
    rw [write, write, writeMembers_append, write_append, colon_append, writeString_append,
      breakLine_append, List.cons_append]

theorem writeItems_append (layout : Layout) (level : Nat) (items : List Value) (s t : List Char) :
    writeItems layout level items (s ++ t) = writeItems layout level items s ++ t := by
  match items with
  | [] => rw [writeItems, writeItems, ← List.cons_append, breakLine_append]
  | item :: items =>
    rw [writeItems, writeItems, writeItems_append, write_append, breakLine_append, List.cons_append]

theorem writeMembers_append (layout : Layout) (level : Nat) (members : List (String × Value))
    (s t : List Char) :
    writeMembers layout level members (s ++ t) = writeMembers layout level members s ++ t := by
  match members with
  | [] => rw [writeMembers, writeMembers, ← List.cons_append, breakLine_append]
  | (key, item) :: members =>
    rw [writeMembers, writeMembers, writeMembers_append, write_append, colon_append,
      writeString_append, breakLine_append, List.cons_append]

end

theorem length_le_write (layout : Layout) (level : Nat) (value : Value) (after : List Char) :
    after.length ≤ (write layout level value after).length := by
  have h := congrArg List.length (write_append layout level value [] after)
  simp only [List.nil_append, List.length_append] at h
  omega

theorem length_le_breakLine (layout : Layout) (level : Nat) (after : List Char) :
    after.length ≤ (layout.breakLine level after).length := by
  have h := congrArg List.length (breakLine_append layout level [] after)
  simp only [List.nil_append, List.length_append] at h
  omega

/-- A key takes its two quotes at least. -/
theorem length_add_two_le_entry (layout : Layout) (level : Nat) (key : String)
    (written : List Char) :
    written.length + 2 ≤
      (layout.breakLine level (writeString key (layout.colon written))).length := by
  have hline := length_le_breakLine layout level (writeString key (layout.colon written))
  have hkey : (layout.colon written).length + 2 ≤
      (writeString key (layout.colon written)).length := by
    simp only [writeString, List.length_cons, List.length_append]
    omega
  have hcolon := congrArg List.length (colon_append layout [] written)
  simp only [List.nil_append, List.length_append] at hcolon
  omega

/-- Strings, and objects of such values under unique keys. -/
inductive Value.Textual : Value → Prop
  | string (text : String) : Textual (.string text)
  | object {members : List (String × Value)} (unique : Assoc.Unique members)
      (textual : ∀ m ∈ members, m.2.Textual) : Textual (.object members)

/-- What comes of reading something that was written: it is read whole, or refused when it nests
containers too deep. -/
def ReadsBack {α : Type} (nesting depth : Nat) (written : α) (after : List Char)
    (reading : Reading α) : Prop :=
  (nesting < depth ∧ reading = .ok (written, after)) ∨
    (depth ≤ nesting ∧ ∃ fault, reading = .error fault ∧ fault.flaw = .recursionLimit)

theorem ReadsBack.map {α β : Type} {nesting depth : Nat} {written : α} {after : List Char}
    {reading : Reading α} (h : ReadsBack nesting depth written after reading) (f : α → β) :
    ReadsBack nesting depth (f written) after (reading.map fun (a, s) => (f a, s)) := by
  rcases h with ⟨hn, rfl⟩ | ⟨hn, fault, rfl, hflaw⟩
  · exact .inl ⟨hn, rfl⟩
  · exact .inr ⟨hn, fault, rfl, hflaw⟩

/-- A container adds one level to what it holds. -/
theorem ReadsBack.deepen {α : Type} {nesting depth : Nat} {written : α} {after : List Char}
    {reading : Reading α} (hdepth : 1 < depth)
    (h : ReadsBack nesting (depth - 1) written after reading) :
    ReadsBack (nesting + 1) depth written after reading := by
  rcases h with ⟨hn, h⟩ | ⟨hn, h⟩
  · exact .inl ⟨by omega, h⟩
  · exact .inr ⟨by omega, h⟩

/-- One step through the members of an object whose next member was written. -/
theorem readMembers_entry {layout : Layout} {first : Bool} {depth fuel : Nat} {key : String}
    {item : Value} {s written rest after: List Char} {read members : List (String × Value)}
    (hkey : nextKey first s = .ok (some key, layout.colon written))
    (hfresh : key ∉ read.map Prod.fst)
    (hitem : ReadsBack item.nesting depth item rest (readValue (fuel + 1) depth written))
    (hmembers : ReadsBack (membersNesting members) depth (read ++ (key, item) :: members) after
      (readMembers (fuel + 1) depth false (read ++ [(key, item)]) rest)) :
    ReadsBack (membersNesting ((key, item) :: members)) depth (read ++ (key, item) :: members) after
      (readMembers (fuel + 2) depth first read s) := by
  obtain ⟨gap, hcolon, hgap⟩ := readColon_colon layout written
  rw [readMembers, hkey]
  simp only [hcolon, readValue_congr hgap, membersNesting]
  rcases hitem with ⟨hn, hitem⟩ | ⟨hn, fault, hitem, hflaw⟩
  · simp only [hitem, Assoc.put_of_notMem hfresh]
    rcases hmembers with ⟨hm, hmembers⟩ | ⟨hm, hmembers⟩
    · exact .inl ⟨by omega, hmembers⟩
    · exact .inr ⟨by omega, hmembers⟩
  · exact .inr ⟨by omega, fault, by simp only [hitem], hflaw⟩

mutual

/-- A written value is read back, whatever follows it, up to the limit on nested containers. -/
theorem readValue_write (layout : Layout) (level fuel depth : Nat) (value : Value)
    (after : List Char) (htext : value.Textual) (hdepth : 0 < depth)
    (hfuel : (write layout level value after).length ≤ fuel) :
    ReadsBack value.nesting depth value after
      (readValue fuel depth (write layout level value after)) := by
  match value, htext with
  | .string text, .string _ =>
    obtain ⟨fuel, rfl⟩ : ∃ n, fuel = n + 1 := by
      simp only [write, writeString, List.cons_append, List.length_cons] at hfuel
      exact ⟨fuel - 1, by omega⟩
    refine .inl ⟨hdepth, ?_⟩
    simp [readValue, write, writeString, skipBlanks_of_not_isBlank, isBlank, readString_written,
      Except.map]
  | .object members, .object hunique htext =>
    have hpos : 0 < (write layout level (.object members) after).length := by
      cases members <;> simp [write]
    obtain ⟨fuel, rfl⟩ : ∃ n, fuel = n + 1 := ⟨fuel - 1, by omega⟩
    by_cases hone : depth ≤ 1
    · refine .inr ⟨by simp only [Value.nesting]; omega, ?_⟩
      cases members <;>
        simp [write, readValue, skipBlanks_of_not_isBlank, isBlank, hone, Fault.ahead]
    have hmembers : ReadsBack (membersNesting members) (depth - 1) members after
        (readMembers fuel (depth - 1) true []
          (write layout level (.object members) after).tail) := by
      match members with
      | [] =>
        simp only [write, List.length_cons] at hfuel
        obtain ⟨fuel, rfl⟩ : ∃ n, fuel = n + 1 := ⟨fuel - 1, by omega⟩
        have hbrace := nextKey_brace true .compact 0 after
        rw [Layout.breakLine] at hbrace
        exact .inl ⟨by simp only [membersNesting]; omega, by simp [readMembers, write, hbrace]⟩
      | (key, item) :: members =>
        have hlen := length_add_two_le_entry layout (level + 1) key
          (write layout (level + 1) item (writeMembers layout level members after))
        have hrest := length_le_write layout (level + 1) item
          (writeMembers layout level members after)
        simp only [write, List.length_cons] at hfuel
        obtain ⟨fuel, rfl⟩ : ∃ n, fuel = n + 2 := ⟨fuel - 2, by omega⟩
        rw [write]
        exact readMembers_entry (nextKey_first ..) (by simp)
          (readValue_write layout (level + 1) (fuel + 1) (depth - 1) item _
            (htext (key, item) (by simp)) (by omega) (by omega))
          (readMembers_writeMembers layout level (fuel + 1) (depth - 1) [(key, item)] members after
            hunique (fun m hm => htext m (by simp [hm])) (by omega) (by omega))
    have hobject : readValue (fuel + 1) depth (write layout level (.object members) after) =
        (readMembers fuel (depth - 1) true [] (write layout level (.object members) after).tail).map
          fun (members, s) => (.object members, s) := by
      cases members <;> simp [write, readValue, skipBlanks_of_not_isBlank, isBlank, hone]
    rw [hobject, Value.nesting]
    exact (hmembers.map Value.object).deepen (by omega)

theorem readMembers_writeMembers (layout : Layout) (level fuel depth : Nat)
    (read members : List (String × Value)) (after : List Char)
    (hunique : Assoc.Unique (read ++ members)) (htext : ∀ m ∈ members, m.2.Textual)
    (hdepth : 0 < depth) (hfuel : (writeMembers layout level members after).length ≤ fuel) :
    ReadsBack (membersNesting members) depth (read ++ members) after
      (readMembers fuel depth false read (writeMembers layout level members after)) := by
  match members with
  | [] =>
    have hlen := length_le_breakLine layout level ('}' :: after)
    simp only [writeMembers, List.length_cons] at hfuel hlen
    obtain ⟨fuel, rfl⟩ : ∃ n, fuel = n + 1 := ⟨fuel - 1, by omega⟩
    refine .inl ⟨hdepth, ?_⟩
    simp only [readMembers, writeMembers, nextKey_brace, List.append_nil]
  | (key, item) :: members =>
    have hlen := length_add_two_le_entry layout (level + 1) key
      (write layout (level + 1) item (writeMembers layout level members after))
    have hrest := length_le_write layout (level + 1) item (writeMembers layout level members after)
    simp only [writeMembers, List.length_cons] at hfuel
    obtain ⟨fuel, rfl⟩ : ∃ n, fuel = n + 2 := ⟨fuel - 2, by omega⟩
    have hfresh : key ∉ read.map Prod.fst := by
      rw [Assoc.Unique, List.map_append, List.nodup_append] at hunique
      exact fun hmem => hunique.2.2 key hmem key (by simp) rfl
    have hmembers := readMembers_writeMembers layout level (fuel + 1) depth (read ++ [(key, item)])
      members after (by simpa using hunique) (fun m hm => htext m (by simp [hm])) hdepth (by omega)
    rw [List.append_assoc] at hmembers
    rw [writeMembers]
    exact readMembers_entry (nextKey_comma ..) hfresh
      (readValue_write layout (level + 1) (fuel + 1) depth item _ (htext (key, item) (by simp))
        hdepth (by omega)) hmembers

end

theorem length_le_stepBound (s : List Char) : s.length ≤ stepBound s := by
  unfold stepBound
  omega

/-- Written texts are read back up to the limit on nested containers, and refused beyond it. Blanks
may follow. -/
theorem parse_print_append {value : Value} (htext : value.Textual) (layout : Layout)
    {blanks : List Char} (hblanks : skipBlanks blanks = []) :
    (value.nesting < depthLimit ∧
        parse ((value.print layout).toList ++ blanks) = .ok value) ∨
      (depthLimit ≤ value.nesting ∧
        ∃ fault, parse ((value.print layout).toList ++ blanks) = .error fault ∧
          fault.flaw = .recursionLimit) := by
  have h := readValue_write layout 0 _ depthLimit value blanks htext (by decide)
    (length_le_stepBound _)
  rw [parse, Value.print, String.toList_ofList, ← write_append, List.nil_append]
  rcases h with ⟨hn, h⟩ | ⟨hn, fault, h, hflaw⟩
  · exact .inl ⟨hn, by rw [h]; simp [finish, hblanks, Except.map]⟩
  · exact .inr ⟨hn, fault, by rw [h], hflaw⟩

/-- A text is written for one value at most. -/
theorem print_injective {v w : Value} (hv : v.Textual) (hw : w.Textual) (layout : Layout)
    (h : v.print layout = w.print layout) : v = w := by
  have hwrite : write layout 0 v [] = write layout 0 w [] := by
    simpa [Value.print] using congrArg String.toList h
  have hreadv := readValue_write layout 0 _ (v.nesting + w.nesting + 1) v [] hv (by omega)
    (Nat.le_refl _)
  have hreadw := readValue_write layout 0 _ (v.nesting + w.nesting + 1) w [] hw (by omega)
    (Nat.le_refl _)
  rcases hreadv with ⟨-, hreadv⟩ | ⟨hn, -⟩
  · rcases hreadw with ⟨-, hreadw⟩ | ⟨hn, -⟩
    · rw [hwrite, hreadw] at hreadv
      simpa using hreadv.symm
    · omega
  · omega

end Phrasebook.Json
