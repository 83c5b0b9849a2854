import Phrasebook.Script.Scanner.Gap
import Phrasebook.Script.Scanner.Name
import Phrasebook.Script.Scanner.Quoted

/-!
Reading single tokens of a script.
-/
namespace Phrasebook.Script

def marks : List String :=
  [">>>=", "...", "===", "!==", "**=", "<<=", ">>=", ">>>", "&&=", "||=", "??=",
    "=>", "==", "!=", "<=", ">=", "++", "--", "<<", ">>", "&&", "||", "??", "**",
    "+=", "-=", "*=", "/=", "%=", "&=", "|=", "^=",
    "\x7b", "\x7d", "(", ")", "[", "]", ";", ",", "<", ">", "+", "-", "*", "/", "%", "&", "|", "^",
    "!", "~", "?", ":", "=", "@", ".", "#", "\x60"]

/-- The punctuation at a position. An optional chain is not followed by a digit. In a type, `<` and
`>` stand alone. -/
def Source.readMark? (src : Source) (mode : Mode) (i : Nat) : Option String :=
  if mode.inType ∧ src[i]? = some '<' then some "<"
  else if mode.inType ∧ src[i]? = some '>' then some ">"
  else if src.hasAt i "?." ∧ !(src[i + 2]?.any Char.isDigit) then some "?."
  else marks.find? (src.hasAt i)

def Source.readToken (src : Source) (mode : Mode) (i : Nat) : Reading :=
  match src[i]? with
  | none => .plain .finish i
  | some c =>
    if c = '"' ∨ c = '\'' then src.readQuoted mode c i
    else if c.isDigit ∨ (c = '.' ∧ src[i + 1]?.any Char.isDigit) then src.readNumber mode i
    else if c = '\\' ∨ Text.isIdentifierStart c then src.readName mode i
    else
      match src.readMark? mode i with
      | some text => .plain (.mark text) (i + text.length)
      | none => .bad i (i + 1) []

theorem Source.opens_of_readMark? {src : Source} {mode : Mode} {i : Nat} {text : String}
    (h : src.readMark? mode i = some text) : src.Opens i text := by
  intro c hc
  rw [Source.readMark?] at h
  split at h
  case isTrue hopen => exact ⟨'<', hopen.2, .inr rfl⟩
  split at h
  case isTrue hclose => exact ⟨'>', hclose.2, .inr rfl⟩
  split at h
  case isTrue hchain =>
    cases h
    exact ⟨c, Source.getElem?_of_hasAt hchain.1 hc, .inl rfl⟩
  exact ⟨c, Source.getElem?_of_hasAt (List.find?_some h) hc, .inl rfl⟩

theorem Source.opens_readToken (src : Source) (mode : Mode) (i : Nat) :
    (src.readToken mode i).token.Opens src i := by
  rw [Source.readToken]
  split
  · trivial
  split
  · exact src.opens_readQuoted mode _ i i
  split
  · exact src.opens_readNumber mode i i
  split
  · exact src.opens_readName mode i
  split
  case h_1 hmark => exact fun _ => Source.opens_of_readMark? hmark
  trivial

/-- A token may be reported where it stands, or where what has been passed over in front begins. -/
theorem Gap.Marked.opens_readToken {src : Source} {gap : Gap} (h : gap.Marked src) (mode : Mode) :
    (src.readToken mode gap.stop).token.Opens src (gap.start.getD gap.stop) := by
  cases hstart : gap.start with
  | none => exact src.opens_readToken mode gap.stop
  | some start => exact (h start hstart).opens_token _

/-- Reads the next token from position `i` on, with the places of the harmless faults on the way.
The first one counts as the first of its line. -/
def Source.scan (src : Source) (mode : Mode) (i : Nat) : Lexeme src × List Nat :=
  let start : Gap := ⟨i, i = 0, none, []⟩
  have hstart : start.Marked src := fun _ h => nomatch h
  let gap := src.skipGap mode (src.size + 1) start
  let reading := src.readToken mode gap.stop
  ({ token := reading.token
     start := gap.start.getD gap.stop
     first := gap.stop
     stop := reading.stop
     newline := gap.newline
     opens := (hstart.skipGap mode _).opens_readToken mode },
    gap.faults ++ reading.faults)

def Source.strayMarks (src : Source) (start stop : Nat) : List Nat :=
  (List.range' start (stop - start)).filter fun i =>
    src[i]? = some '>' || src[i]? = some '\x7d'

/-- Reads a token among the children of an element: a tag, a brace, or the text up to one. A lone
`>` or closing brace in text is a harmless fault. -/
def Source.scanChild (src : Source) (i : Nat) : Lexeme src × List Nat :=
  let stop := src.skip (fun c => c ≠ '<' && c ≠ '\x7b') i
  match h : src[i]? with
  | none => (⟨.finish, i, i, i, false, trivial⟩, [])
  | some '<' =>
    (⟨.mark "<", i, i, i + 1, false, fun _ => Source.ShowsOpening.opens ⟨'<', h, rfl⟩ _⟩, [])
  | some '\x7b' => (⟨.mark "\x7b", i, i, i + 1, false, nofun⟩, [])
  | some _ => (⟨.elementText, i, i, stop, false, trivial⟩, src.strayMarks i stop)

end Phrasebook.Script
