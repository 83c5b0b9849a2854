import Phrasebook.Proofs.Json.Paths
import Phrasebook.Proofs.Json.RoundTrip
import Phrasebook.Proofs.KeyLine.Searching

/-!
The lines of indented JSON. Every key stands at the start of a line of its own, behind the keys of
the objects it is in.
-/
namespace Phrasebook.Json

mutual

/-- The lines that an indented value takes: two for the braces of an object that has members. -/
def Value.lineCount : Value → Nat
  | .object [] => 1
  | .object (member :: members) => membersLineCount (member :: members) + 2
  | _ => 1

def membersLineCount : List (String × Value) → Nat
  | [] => 0
  | (_, value) :: members => value.lineCount + membersLineCount members

end

def Value.linesBefore (key : String) : Value → Nat
  | .object members => membersLineCount (members.takeWhile fun m => m.1 ≠ key)
  | _ => 0

/-- The line that the value at a path begins on, which is the line of its key, where the value as a
whole begins on line `line`. -/
def Value.lineAt (value : Value) (line : Nat) : List String → Nat
  | [] => line
  | key :: path =>
    ((value.member? key).map fun inner =>
      inner.lineAt (line + 1 + value.linesBefore key) path).getD 0

def lineStart (width level : Nat) : List Char :=
  '\n' :: List.replicate (width * level) ' '

def keyLine (width level : Nat) (key : String) (after : List Char) : List Char :=
  lineStart width level ++ (quote key ++ ':' :: ' ' :: after)

theorem breakLine_eq (width level : Nat) (after : List Char) :
    (Layout.indented width).breakLine level after = lineStart width level ++ after :=
  rfl

theorem writeString_eq (text : String) (after : List Char) :
    writeString text after = quote text ++ after := by
  rw [quote, ← writeString_append, List.nil_append]

@[simp] theorem count_lineStart (width level : Nat) : (lineStart width level).count '\n' = 1 := by
  simp [lineStart, List.count_replicate]

theorem hexDigit_ne {n : Nat} (h : n < 16) : Text.hexDigit n ≠ '"' ∧ Text.hexDigit n ≠ '\n' := by
  decide +revert

/-- A character stands for itself, or it is escaped. Only an escaped quote has a quote behind its
backslash, and no line break is written. -/
theorem escapeChar_cases (c : Char) :
    (escapeChar c = [c] ∧ c ≠ '"' ∧ c ≠ '\n') ∨
      ∃ rest, escapeChar c = '\\' :: rest ∧ '\n' ∉ rest ∧ ('"' ∉ rest ∨ rest = ['"']) := by
  unfold escapeChar
  split
  case h_1 => exact .inr ⟨['"'], rfl, by decide, .inr rfl⟩
  case h_8 _ hquote _ _ _ hnewline _ _ =>
    split_ifs with hcontrol
    · have hhigh := hexDigit_ne (show c.toNat / 16 < 16 by omega)
      have hlow := hexDigit_ne (show c.toNat % 16 < 16 by omega)
      exact .inr ⟨_, rfl, by simp [hhigh.2.symm, hlow.2.symm],
        .inl (by simp [hhigh.1.symm, hlow.1.symm])⟩
    · exact .inl ⟨rfl, fun h => hquote h, fun h => hnewline h⟩
  all_goals exact .inr ⟨[_], rfl, by decide, .inl (by decide)⟩

@[simp] theorem count_quote (text : String) : (quote text).count '\n' = 0 := by
  have hplain (c : Char) : '\n' ∉ escapeChar c := by
    rcases escapeChar_cases c with ⟨hself, -, hne⟩ | ⟨rest, hescape, hrest, -⟩
    · simpa [hself] using hne.symm
    · simp [hescape, hrest]
  simp [quote, writeString, List.count_eq_zero, hplain]

theorem keyLine_append (width level : Nat) (key : String) (s t : List Char) :
    keyLine width level key s ++ t = keyLine width level key (s ++ t) := by
  simp [keyLine]

@[simp] theorem count_keyLine (width level : Nat) (key : String) (after : List Char) :
    (keyLine width level key after).count '\n' = after.count '\n' + 1 := by
  simp only [keyLine, List.count_append, List.count_cons, count_lineStart, count_quote,
    beq_iff_eq, Char.reduceEq, if_false]
  omega

/-- A member as it is written behind another one. -/
theorem writeMembers_cons (width level : Nat) (key : String) (value : Value)
    (members : List (String × Value)) (after : List Char) :
    writeMembers (.indented width) level ((key, value) :: members) after =
      ',' :: keyLine width (level + 1) key (write (.indented width) (level + 1) value
        (writeMembers (.indented width) level members after)) := by
  rw [writeMembers, breakLine_eq, writeString_eq]
  rfl

/-- The members of an object are written like those behind another one, but for the comma. -/
theorem write_object_cons (width level : Nat) (member : String × Value)
    (members : List (String × Value)) (after : List Char) :
    ∃ rest, writeMembers (.indented width) level (member :: members) after = ',' :: rest ∧
      write (.indented width) level (.object (member :: members)) after = '{' :: rest := by
  obtain ⟨key, value⟩ := member
  exact ⟨_, by rw [writeMembers], by rw [write]⟩

mutual

theorem count_write {value : Value} (hvalue : value.Textual) (width level : Nat)
    (after : List Char) :
    (write (.indented width) level value after).count '\n' + 1 =
      value.lineCount + after.count '\n' := by
  match value, hvalue with
  | .string text, _ =>
    simp only [write, writeString_eq, List.count_append, count_quote, Value.lineCount]
    omega
  | .object [], _ =>
    simp [write, Value.lineCount, Nat.add_comm]
  | .object (member :: members), .object _ htextual =>
    obtain ⟨rest, hmembers, hobject⟩ := write_object_cons width level member members after
    have hcount := count_writeMembers htextual width level after
    rw [hmembers] at hcount
    rw [hobject, Value.lineCount]
    simp only [List.count_cons, beq_iff_eq, Char.reduceEq, if_false] at hcount ⊢
    omega

theorem count_writeMembers {members : List (String × Value)}
    (hmembers : ∀ m ∈ members, m.2.Textual) (width level : Nat) (after : List Char) :
    (writeMembers (.indented width) level members after).count '\n' =
      membersLineCount members + 1 + after.count '\n' := by
  match members, hmembers with
  | [], _ =>
    rw [writeMembers, breakLine_eq, List.count_append, count_lineStart, membersLineCount]
    simp
  | (key, value) :: members, hmembers =>
    have htextual : value.Textual := hmembers (key, value) List.mem_cons_self
    have hvalue := count_write htextual width (level + 1)
      (writeMembers (.indented width) level members after)
    have hrest := count_writeMembers (fun m hm => hmembers m (List.mem_cons_of_mem _ hm))
      width level after
    rw [writeMembers_cons, membersLineCount, List.count_cons_of_ne (by decide), count_keyLine]
    omega

end

variable {value inner found : Value} {members : List (String × Value)} {key : String}
  {path : List String}

/-- A member stands on its line behind the members in front of it. -/
theorem exists_written_member (hmembers : ∀ m ∈ members, m.2.Textual)
    (hkey : members.lookup key = some inner) (width level : Nat) (after : List Char) :
    ∃ above rest, writeMembers (.indented width) level members after =
        above ++ keyLine width (level + 1) key (write (.indented width) (level + 1) inner rest) ∧
      above.count '\n' = membersLineCount (members.takeWhile fun m => m.1 ≠ key) := by
  induction members with
  | nil => cases hkey
  | cons m members ih =>
    obtain ⟨k, value⟩ := m
    rw [Assoc.lookup_cons_ite] at hkey
    by_cases hk : k = key
    · subst hk
      rw [if_pos rfl] at hkey
      cases hkey
      exact ⟨[','], writeMembers (.indented width) level members after, writeMembers_cons ..,
        by simp [membersLineCount]⟩
    · rw [if_neg hk] at hkey
      obtain ⟨above, rest, hwritten, hcount⟩ :=
        ih (fun m hm => hmembers m (List.mem_cons_of_mem _ hm)) hkey
      have htextual : value.Textual := hmembers (k, value) List.mem_cons_self
      have hvalue := count_write htextual width (level + 1) above
      refine ⟨',' :: keyLine width (level + 1) k (write (.indented width) (level + 1) value above),
        rest, ?_, ?_⟩
      · rw [writeMembers_cons, hwritten, write_append, ← keyLine_append, List.cons_append]
      · rw [List.takeWhile_cons_of_pos (by simpa using hk), membersLineCount, ← hcount,
          List.count_cons_of_ne (by decide), count_keyLine]
        omega

theorem Value.Textual.member? (h : value.Textual) (hmember : value.member? key = some inner) :
    inner.Textual := by
  cases h with
  | string text => cases hmember
  | object unique textual => exact textual _ ((Assoc.mem_iff_lookup unique).mpr hmember)

/-- Every member of a value has a line that begins with its key. -/
theorem exists_member_line (hvalue : value.Textual) (hmember : value.member? key = some inner)
    (width level : Nat) (after : List Char) :
    ∃ above rest, write (.indented width) level value after =
        above ++ keyLine width (level + 1) key (write (.indented width) (level + 1) inner rest) ∧
      above.count '\n' = value.linesBefore key := by
  cases hvalue with
  | string text => cases hmember
  | @object members unique textual =>
    obtain ⟨above, rest, hwritten, hcount⟩ :=
      exists_written_member textual hmember width level after
    cases members with
    | nil => cases hmember
    | cons first members =>
      obtain ⟨written, hmembers, hobject⟩ := write_object_cons width level first members after
      rw [hmembers] at hwritten
      cases above with
      | nil => cases (List.cons.inj hwritten).1
      | cons c above =>
        obtain ⟨rfl, rfl⟩ := List.cons.inj hwritten
        exact ⟨'{' :: above, rest, hobject, hcount⟩

/-- Every value inside another has a line that begins with its key, and the keys above it stand
before that line. -/
theorem exists_key_line (hvalue : value.Textual) (hat : value.at? path = some found)
    (hpath : path ≠ []) (width level line : Nat) (after : List Char) :
    ∃ above rest, write (.indented width) level value after =
        above ++ keyLine width (level + path.length) (path.getLast hpath)
          (write (.indented width) (level + path.length) found rest) ∧
      KeyLine.Reads path (write (.indented width) level value after)
        (':' :: ' ' :: write (.indented width) (level + path.length) found rest) ∧
      value.lineAt line path = line + 1 + above.count '\n' := by
  have hcolon (text : List Char) : KeyLine.isKeyBefore (':' :: text) := rfl
  induction path generalizing value level line after with
  | nil => exact absurd rfl hpath
  | cons key path ih =>
    obtain ⟨inner, hmember, hat⟩ := Value.at?_cons_eq_some_iff.mp hat
    obtain ⟨above, rest, hwritten, hcount⟩ := exists_member_line hvalue hmember width level after
    cases path with
    | nil =>
      cases hat
      refine ⟨above, rest, hwritten, ?_, ?_⟩
      · rw [hwritten, keyLine, ← List.append_assoc, ← List.append_assoc]
        exact .cons (hcolon _) (.nil _)
      · rw [Value.lineAt, hmember, ← hcount]
        rfl
    | cons next path =>
      obtain ⟨between, below, hinner, hreads, hline⟩ := ih (hvalue.member? hmember) hat (by simp)
        (level + 1) (line + 1 + value.linesBefore key) rest
      have hlevel : level + 1 + (next :: path).length = level + (key :: next :: path).length := by
        simp only [List.length_cons]
        omega
      rw [hlevel] at hinner hreads
      refine ⟨above ++ keyLine width (level + 1) key between, below, ?_, ?_, ?_⟩
      · rw [hwritten, hinner, List.getLast_cons_cons, List.append_assoc, keyLine_append]
      · rw [hwritten, keyLine, ← List.append_assoc, ← List.append_assoc]
        exact .cons (hcolon _) (hreads.prepend (by simp) [':', ' '])
      · rw [Value.lineAt, hmember, Option.map_some, Option.getD_some, hline, ← hcount,
          List.count_append, count_keyLine]
        omega

end Phrasebook.Json
