import Phrasebook.Lint.Charset
import Phrasebook.Proofs.KeyLine.Lines
import Phrasebook.Proofs.Tree.Rereading
import Phrasebook.Proofs.Tree.RoundTrip

/-!
Finding the lines of keys in phrase files. No text can be mistaken for a key where all keys are
plain: neither can what the strings hold, since their quotes are escaped, nor what stands between
two strings.
-/
namespace Phrasebook

namespace Json

mutual

def Value.allKeys : Value → List String
  | .object members => memberKeys members
  | _ => []

def memberKeys : List (String × Value) → List String
  | [] => []
  | (key, value) :: members => key :: (value.allKeys ++ memberKeys members)

end

end Json

namespace KeyLine
open Json (quote escapeChar escapeChar_cases)

/-- A character that stands for itself inside quotes and does not come directly behind them. -/
def isPlain (c : Char) : Bool :=
  c != '"' && c != '\\' && c != ':' && c != ',' && decide (0x20 ≤ c.toNat)

def IsPlain (key : String) : Prop :=
  ∀ c ∈ key.toList, isPlain c

def EndsValue (after : List Char) : Prop :=
  (after.head? = some ',' ∨ after.head? = some '\n') ∧ isKeyBefore after = false

theorem isPlain_of_isKeyChar {c : Char} (h : Lint.isKeyChar c) : isPlain c := by
  have hne (d : Char) (hd : Lint.isKeyChar d = false) : c ≠ d := by
    rintro rfl
    exact Bool.false_ne_true (hd.symm.trans h)
  have hcontrol : 0x20 ≤ c.toNat := by
    have hall : ∀ n < 0x20, Lint.isKeyChar (Char.ofNat n) = false := by decide +kernel
    by_contra hlow
    exact hne _ (hall c.toNat (by omega)) (Char.ofNat_toNat c).symm
  have hquote := hne '"' (by decide +kernel)
  have hslash := hne '\\' (by decide +kernel)
  have hcolon := hne ':' (by decide +kernel)
  have hcomma := hne ',' (by decide +kernel)
  simp [isPlain, hquote, hslash, hcolon, hcomma, hcontrol]

/-- The segments that the lint allows are plain. -/
theorem isPlain_of_isKeySegment {key : String} (h : Lint.isKeySegment key) : IsPlain key := by
  simp only [Lint.isKeySegment, Bool.and_eq_true, List.all_eq_true] at h
  exact fun c hc => isPlain_of_isKeyChar (h.2 c hc)

variable {segment key : String} {cs plain after rest : List Char} {c : Char}

theorem escapeChar_of_isPlain (h : isPlain c) : escapeChar c = [c] := by
  simp only [isPlain, Bool.and_eq_true, bne_iff_ne, decide_eq_true_eq] at h
  obtain ⟨⟨⟨⟨hquote, hslash⟩, -⟩, -⟩, hcontrol⟩ := h
  have hne (d : Char) (hd : d.toNat < 0x20) : c ≠ d := by
    rintro rfl
    omega
  rw [escapeChar, if_neg (by omega)]
  · exact hquote
  · exact hslash
  all_goals exact hne _ (by decide)

theorem quote_of_isPlain (h : IsPlain key) : quote key = '"' :: (key.toList ++ ['"']) := by
  have hself : key.toList.flatMap escapeChar = key.toList := by
    rw [List.flatMap_congr fun c hc => escapeChar_of_isPlain (h c hc)]
    exact List.flatMap_singleton' _
  rw [quote, Json.writeString, hself]
  rfl

/-- Where the text of a string up to some quote is plain, it is the whole string. -/
theorem eq_of_flatMap_escapeChar_append (hplain : ∀ c ∈ plain, isPlain c)
    (h : cs.flatMap escapeChar ++ '"' :: after = plain ++ '"' :: rest) :
    cs = plain ∧ after = rest := by
  induction cs generalizing plain with
  | nil =>
    cases plain with
    | nil => exact ⟨rfl, (List.cons.inj h).2⟩
    | cons p plain =>
      obtain ⟨rfl, -⟩ := List.cons.inj h
      exact absurd (hplain _ List.mem_cons_self) (by decide)
  | cons c cs ih =>
    rw [List.flatMap_cons, List.append_assoc] at h
    rcases escapeChar_cases c with ⟨hself, hquote, -⟩ | ⟨tail, hescape, -⟩
    · rw [hself, List.singleton_append] at h
      cases plain with
      | nil => exact absurd (List.cons.inj h).1 hquote
      | cons p plain =>
        obtain ⟨rfl, htail⟩ := List.cons.inj h
        obtain ⟨rfl, hafter⟩ := ih (fun d hd => hplain d (List.mem_cons_of_mem _ hd)) htail
        exact ⟨rfl, hafter⟩
    · rw [hescape] at h
      cases plain with
      | nil => cases h
      | cons p plain =>
        obtain ⟨rfl, -⟩ := List.cons.inj h
        exact absurd (hplain _ List.mem_cons_self) (by decide)

theorem standsAsKey_quoted_iff (hsegment : IsPlain segment) :
    standsAsKey (quote segment) ('"' :: (cs.flatMap escapeChar ++ '"' :: after)) ↔
      cs = segment.toList ∧ isKeyBefore after := by
  rw [standsAsKey_iff, quote_of_isPlain hsegment]
  constructor
  · rintro ⟨rest, h, hkey⟩
    rw [List.cons_append, List.append_assoc] at h
    obtain ⟨hcs, rfl⟩ := eq_of_flatMap_escapeChar_append hsegment (List.cons.inj h).2
    exact ⟨hcs, hkey⟩
  · rintro ⟨rfl, hkey⟩
    refine ⟨after, ?_, hkey⟩
    rw [← List.cons_append, ← quote_of_isPlain hsegment, quote, ← Json.writeString_append]
    rfl

/-- No key begins with the quote that closes another string. -/
theorem not_standsAsKey_closing (hsegment : IsPlain segment) (hquote : c ≠ '"')
    (hplain : ¬isPlain c) : ¬standsAsKey (quote segment) ('"' :: c :: cs) := by
  rw [standsAsKey_iff, quote_of_isPlain hsegment]
  rintro ⟨rest, h, -⟩
  rw [List.cons_append, List.append_assoc] at h
  have htail := (List.cons.inj h).2
  cases hchars : segment.toList with
  | nil =>
    rw [hchars] at htail
    exact hquote (List.cons.inj htail).1
  | cons d chars =>
    rw [hchars] at htail
    obtain ⟨rfl, -⟩ := List.cons.inj htail
    exact hplain (hsegment c (hchars ▸ List.mem_cons_self))

theorem spotCount_cons_of_not (h : ¬standsAsKey (quote segment) (c :: cs)) :
    spotCount (quote segment) (c :: cs) = spotCount (quote segment) cs := by
  rw [spotCount, if_neg h, Nat.zero_add]

theorem spotCount_append_of_notMem (h : '"' ∉ cs) :
    spotCount (quote segment) (cs ++ after) = spotCount (quote segment) after := by
  induction cs with
  | nil => rfl
  | cons c cs ih =>
    rw [List.mem_cons, not_or] at h
    have hnot : ¬standsAsKey (quote segment) (c :: (cs ++ after)) := by
      rw [standsAsKey_iff]
      rintro ⟨rest, htext, -⟩
      exact h.1 (List.cons.inj htext).1.symm
    rw [List.cons_append, spotCount_cons_of_not hnot, ih h.2]

/-- The text of a string that is a value has no place that passes for a key. -/
theorem spotCount_string (hsegment : IsPlain segment) (hafter : EndsValue after) :
    spotCount (quote segment) (cs.flatMap escapeChar ++ '"' :: after) =
      spotCount (quote segment) after := by
  obtain ⟨hhead, hkey⟩ := hafter
  induction cs with
  | nil =>
    have hclosing : ¬standsAsKey (quote segment) ('"' :: after) := by
      cases after with
      | nil => simp at hhead
      | cons c after =>
        rcases hhead with hc | hc <;> cases hc <;>
          exact not_standsAsKey_closing hsegment (by decide) (by decide)
    exact spotCount_cons_of_not hclosing
  | cons c cs ih =>
    rw [List.flatMap_cons, List.append_assoc]
    rcases escapeChar_cases c with ⟨hself, hquote, -⟩ | ⟨tail, hescape, -, hnone | rfl⟩
    · rw [hself, spotCount_append_of_notMem (by simpa using hquote.symm), ih]
    · rw [hescape, spotCount_append_of_notMem (by simpa using hnone), ih]
    · have hescaped : ¬standsAsKey (quote segment)
          ('"' :: (cs.flatMap escapeChar ++ '"' :: after)) := by
        rw [standsAsKey_quoted_iff hsegment, hkey]
        exact fun h => Bool.false_ne_true h.2
      rw [hescape, show ['\\', '"'] = ['\\'] ++ ['"'] from rfl, List.append_assoc,
        spotCount_append_of_notMem (by decide)]
      exact (spotCount_cons_of_not hescaped).trans ih

theorem spotCount_keyLine (hsegment : IsPlain segment) (hkey : IsPlain key) (width level : Nat)
    (after : List Char) :
    spotCount (quote segment) (Json.keyLine width level key after) =
      (if key = segment then 1 else 0) + spotCount (quote segment) after := by
  have hline : '"' ∉ Json.lineStart width level := by simp [Json.lineStart]
  have hstands : standsAsKey (quote segment) (quote key ++ ':' :: ' ' :: after) ↔
      key = segment := by
    rw [← Json.writeString_eq, Json.writeString, List.cons_append,
      standsAsKey_quoted_iff hsegment, String.toList_inj]
    exact and_iff_left rfl
  have hquotes : '"' ∉ key.toList := fun h => absurd (hkey _ h) (by decide)
  have hclosing : ¬standsAsKey (quote segment) ('"' :: ':' :: ' ' :: after) :=
    not_standsAsKey_closing hsegment (by decide) (by decide)
  have hbehind : spotCount (quote segment) (key.toList ++ '"' :: ':' :: ' ' :: after) =
      spotCount (quote segment) after := by
    rw [spotCount_append_of_notMem hquotes, spotCount_cons_of_not hclosing,
      show ':' :: ' ' :: after = [':', ' '] ++ after from rfl,
      spotCount_append_of_notMem (by decide)]
  rw [Json.keyLine, spotCount_append_of_notMem hline]
  rw [quote_of_isPlain hkey, List.cons_append, List.append_assoc, List.singleton_append]
    at hstands ⊢
  rw [spotCount, hbehind]
  simp only [hstands]

end KeyLine

namespace Json
open KeyLine

theorem isKeyBefore_lineStart (width level : Nat) (after : List Char) :
    isKeyBefore (lineStart width level ++ after) = isKeyBefore after := by
  have hblank : ∀ c ∈ lineStart width level, Text.isBlank c := by
    simp only [lineStart, List.forall_mem_cons, List.mem_replicate]
    exact ⟨rfl, fun c hc => hc.2 ▸ rfl⟩
  rw [isKeyBefore, isKeyBefore, Text.trimStart, Text.trimStart, List.dropWhile_append_of_pos hblank]

theorem endsValue_writeMembers (width level : Nat) (members : List (String × Value))
    (after : List Char) : EndsValue (writeMembers (.indented width) level members after) := by
  cases members with
  | nil =>
    rw [writeMembers, breakLine_eq]
    exact ⟨.inr rfl, isKeyBefore_lineStart ..⟩
  | cons member members =>
    obtain ⟨key, value⟩ := member
    rw [writeMembers_cons]
    exact ⟨.inl rfl, rfl⟩

mutual

/-- A key stands in a written value as often as it is a key there. -/
theorem spotCount_write {value : Value} (hvalue : value.Textual)
    (hkeys : ∀ key ∈ value.allKeys, IsPlain key) {segment : String} (hsegment : IsPlain segment)
    (width level : Nat) {after : List Char} (hafter : EndsValue after) :
    spotCount (quote segment) (write (.indented width) level value after) =
      value.allKeys.count segment + spotCount (quote segment) after := by
  match value, hvalue with
  | .string text, _ =>
    have hopening : ¬standsAsKey (quote segment)
        ('"' :: (text.toList.flatMap escapeChar ++ '"' :: after)) := by
      rw [standsAsKey_quoted_iff hsegment, hafter.2]
      exact fun h => Bool.false_ne_true h.2
    rw [write, writeString, List.cons_append, spotCount_cons_of_not hopening,
      spotCount_string hsegment hafter]
    simp only [Value.allKeys, List.count_nil, Nat.zero_add]
  | .object [], _ =>
    rw [write, show '{' :: '}' :: after = ['{', '}'] ++ after from rfl,
      spotCount_append_of_notMem (by decide), Value.allKeys, memberKeys, List.count_nil,
      Nat.zero_add]
  | .object (member :: members), .object _ htextual =>
    obtain ⟨rest, hmembers, hobject⟩ := write_object_cons width level member members after
    have hcount := spotCount_writeMembers htextual hkeys hsegment width level after
    rw [hmembers, show ',' :: rest = [','] ++ rest from rfl,
      spotCount_append_of_notMem (by decide)] at hcount
    rw [hobject, show '{' :: rest = ['{'] ++ rest from rfl, spotCount_append_of_notMem (by decide),
      hcount, Value.allKeys]

theorem spotCount_writeMembers {members : List (String × Value)}
    (hmembers : ∀ m ∈ members, m.2.Textual) (hkeys : ∀ key ∈ memberKeys members, IsPlain key)
    {segment : String} (hsegment : IsPlain segment) (width level : Nat) (after : List Char) :
    spotCount (quote segment) (writeMembers (.indented width) level members after) =
      (memberKeys members).count segment + spotCount (quote segment) after := by
  match members, hmembers with
  | [], _ =>
    have hclose : '"' ∉ lineStart width level ++ ['}'] := by simp [lineStart]
    rw [writeMembers, breakLine_eq, ← List.singleton_append, ← List.append_assoc,
      spotCount_append_of_notMem hclose, memberKeys, List.count_nil, Nat.zero_add]
  | (key, value) :: members, hmembers =>
    rw [memberKeys] at hkeys ⊢
    simp only [List.forall_mem_cons, List.forall_mem_append] at hkeys
    obtain ⟨hkey, hinner, hothers⟩ := hkeys
    have htextual : value.Textual := hmembers (key, value) List.mem_cons_self
    have hvalue := spotCount_write htextual hinner hsegment width (level + 1)
      (endsValue_writeMembers width level members after)
    have hrest := spotCount_writeMembers (fun m hm => hmembers m (List.mem_cons_of_mem _ hm))
      hothers hsegment width level after
    rw [writeMembers_cons, ← List.singleton_append, spotCount_append_of_notMem (by decide),
      spotCount_keyLine hsegment hkey, hvalue, hrest]
    simp only [List.count_cons, List.count_append, beq_iff_eq]
    omega

end

end Json

variable {t : Tree} {file : PhraseFile} {path : KeyPath} {node : Node}

namespace Tree

/-- Nodes are written where their paths lead. -/
theorem at?_toJson_of_get? (h : t.get? path = some node) :
    t.toJson.at? path = some node.toJson := by
  induction path generalizing t with
  | nil => cases h
  | cons key path ih =>
    cases path with
    | nil =>
      rw [get?] at h
      exact Json.Value.at?_cons_eq_some_iff.mpr
        ⟨node.toJson, by rw [toJson, Json.Value.member?, lookup_members, h]; rfl, rfl⟩
    | cons next path =>
      rw [get?_cons_cons] at h
      obtain ⟨inner, hinner, h⟩ := Option.bind_eq_some_iff.mp h
      cases inner with
      | leaf value => cases h
      | subtree children =>
        exact Json.Value.at?_cons_eq_some_iff.mpr
          ⟨children.toJson, by rw [toJson, Json.Value.member?, lookup_members, hinner]; rfl, ih h⟩

theorem toList_render (t : Tree) :
    t.render.toList = Json.write (.indented 4) 0 t.toJson ['\n'] := by
  rw [render, Json.Value.print, String.toList_append, String.toList_ofList, ← Json.write_append]
  rfl

end Tree

/-- Every entry of a file has a line that begins with its key. The line that is found for it is not
below that one, whatever the file holds. It is that line if all keys are plain and the segments of
the path are the keys of no other entries or plural forms. -/
theorem PhraseFile.lineOf_entry {name : String} (hread : parse name t.render = .ok file)
    (htree : file.tree = t) (hentry : t.get? path = some node) :
    ∃ key above rest found, path.getLast? = some key ∧
      file.content.toList = above ++ Json.keyLine 4 path.length key
        (Json.write (.indented 4) path.length node.toJson rest) ∧
      t.toJson.lineAt 1 path = above.count '\n' + 2 ∧
      KeyLine.followAll? path file.content.toList = some found ∧
      file.lineOf path ≤ t.toJson.lineAt 1 path ∧
      ((∀ k ∈ t.toJson.allKeys, KeyLine.IsPlain k) →
        (∀ segment ∈ path, t.toJson.allKeys.count segment = 1) →
          file.lineOf path = t.toJson.lineAt 1 path) := by
  obtain ⟨read, hparse, rfl⟩ := PhraseFile.parse_eq_ok_iff.mp hread
  obtain rfl : read = t := htree
  have hpath : path ≠ [] := by
    rintro rfl
    cases hentry
  have htextual := Tree.textual_toJson (Tree.decoded_of_parse hparse).1
  have hat := Tree.at?_toJson_of_get? hentry
  obtain ⟨above, rest, hwritten, hreads, hline⟩ :=
    Json.exists_key_line htextual hat hpath 4 0 1 ['\n']
  rw [← Tree.toList_render, Nat.zero_add] at hwritten hreads
  obtain ⟨found, hfound, hsuffix⟩ := hreads.exists_followAll? List.suffix_rfl
  have hlineOf : lineOf ⟨name, read.render, read⟩ path =
      1 + read.render.toList.count '\n' - found.count '\n' := by
    rw [lineOf, KeyLine.lineOf, KeyLine.follow_of_followAll? hfound]
  have htotal := congrArg (List.count '\n') hwritten
  rw [List.count_append, Json.count_keyLine] at htotal
  have hcolon (text : List Char) : (':' :: ' ' :: text).count '\n' = text.count '\n' := by
    rw [List.count_cons_of_ne (by decide), List.count_cons_of_ne (by decide)]
  refine ⟨path.getLast hpath, above, rest, found, List.getLast?_eq_some_getLast hpath, hwritten,
    by omega, hfound, ?_, ?_⟩
  · have hbehind := hsuffix.sublist.count_le '\n'
    rw [hcolon] at hbehind
    omega
  · intro hplain hunique
    have hspots (segment : String) (hsegment : segment ∈ path) :
        KeyLine.spotCount (Json.quote segment) read.render.toList ≤ 1 := by
      have honce := hunique segment hsegment
      have hkey := hplain segment (List.count_pos_iff.mp (by omega))
      have hend : KeyLine.spotCount (Json.quote segment) (['\n'] ++ []) = 0 :=
        KeyLine.spotCount_append_of_notMem (by decide)
      rw [Tree.toList_render, Json.spotCount_write htextual hplain hkey 4 0 ⟨.inr rfl, rfl⟩, honce]
      exact Nat.add_le_add_left (Nat.le_of_eq hend) 1
    obtain rfl := Option.some.inj (hfound.symm.trans (hreads.followAll?_eq hspots))
    rw [hcolon] at hlineOf
    omega

/-- A key is found behind a text that imitates it. -/
theorem imitated_key_found :
    let t : Tree := .branch "menu" (.leaf "close" (.text "\"open\": 1")
      (.leaf "open" (.plural ⟨[("one", "\\\"menu\" :"), ("other", "close")]⟩) .nil)) .nil
    ∃ file, PhraseFile.parse "en.json" t.render = .ok file ∧ file.tree = t ∧
      (t.get? ["menu", "open"]).isSome ∧ file.lineOf ["menu", "open"] = 4 := by
  intro t
  have hwf : t.WellFormed := by
    simp [t, Tree.WellFormed, Phrase.WellFormed, Plural.WellFormed, Assoc.Unique, Plural.otherForm]
  have hgood : t.nesting ≤ 127 ∧ t.Unambiguous := by
    simp [t, Tree.Unambiguous, Tree.nesting, Phrase.nesting, Plural.otherForm]
  have hparse : Tree.parse t.render = .ok t :=
    (Tree.parse_render hwf).mpr
      ⟨hgood.1, hgood.2.legible, Tree.reread_eq_self_iff.mpr hgood.2⟩
  have hread : PhraseFile.parse "en.json" t.render = .ok ⟨"en.json", t.render, t⟩ :=
    PhraseFile.parse_eq_ok_iff.mpr ⟨t, hparse, rfl⟩
  have hentry : t.get? ["menu", "open"] =
      some (.plural ⟨[("one", "\\\"menu\" :"), ("other", "close")]⟩) := rfl
  obtain ⟨-, -, -, -, -, -, -, -, -, hline⟩ := PhraseFile.lineOf_entry hread rfl hentry
  refine ⟨_, hread, rfl, rfl, (hline ?_ ?_).trans (by decide)⟩
  · have hkeys : ∀ k ∈ t.toJson.allKeys, Lint.isKeySegment k := by decide
    exact fun k hk => KeyLine.isPlain_of_isKeySegment (hkeys k hk)
  · decide

end Phrasebook
