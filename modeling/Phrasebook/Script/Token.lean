import Phrasebook.Script.Source

/-!
Tokens of scripts, and the faults that end reading one.
-/
namespace Phrasebook.Script

inductive Token where
  /-- A name or a keyword; `escaped` when it begins with an escape, so that it is no keyword. -/
  | word (text : String) (escaped : Bool)
  | number
  | bigint
  /-- A string literal. One with a lone surrogate has no value. -/
  | string (value : Option String)
  | mark (text : String)
  /-- Text between the tags of an element. -/
  | elementText
  /-- Characters that are no token, and the place of what is wrong with them. -/
  | faulty (position : Nat)
  | finish
  deriving DecidableEq, Repr, Inhabited

def isOpeningMark (text : String) : Bool :=
  text.toList.head?.any isOpening

/-- Whether a token may be reported at a position. Only words have to show there, and the marks that
other tokens may be reported at. -/
def Token.Opens (src : Source) (position : Nat) : Token → Prop
  | .word text _ => src.Opens position text
  | .mark text => isOpeningMark text → src.Opens position text
  | _ => True

theorem Source.ShowsOpening.opens_token {src : Source} {position : Nat}
    (h : src.ShowsOpening position) (token : Token) : token.Opens src position := by
  cases token with
  | word text _ => exact h.opens text
  | mark text => exact fun _ => h.opens text
  | _ => trivial

/-- A token, where it stands, and whether a line break comes before it. It is reported at `start`:
at the first of the markup comments in front of it, if there are any. Its text begins at `first`. -/
structure Lexeme (src : Source) where
  token : Token
  start : Nat
  first : Nat
  stop : Nat
  newline : Bool
  opens : token.Opens src start

namespace Lexeme

variable {src : Source}

instance : Inhabited (Lexeme src) := ⟨⟨.finish, 0, 0, 0, false, trivial⟩⟩

def isMark (lexeme : Lexeme src) (text : String) : Bool := lexeme.token = .mark text

def isKeyword (lexeme : Lexeme src) (text : String) : Bool := lexeme.token = .word text false

def isWord (lexeme : Lexeme src) : Bool := lexeme.token matches .word _ _

theorem opens_of_word {lexeme : Lexeme src} {text : String} {escaped : Bool}
    (h : lexeme.token = .word text escaped) : src.Opens lexeme.start text := by
  have hopens := lexeme.opens
  rw [h] at hopens
  exact hopens

theorem showsOpening_of_mark {lexeme : Lexeme src} {mark : String}
    (h : lexeme.token = .mark mark) (hmark : isOpeningMark mark) :
    src.ShowsOpening lexeme.start := by
  obtain ⟨c, hc, hopening⟩ := (Option.any_eq_true _ _).mp hmark
  have hopens := lexeme.opens
  rw [h] at hopens
  obtain ⟨found, hfound, rfl | hother⟩ := hopens hmark c hc
  · exact ⟨found, hfound, hopening⟩
  · exact ⟨found, hfound, hother⟩

end Lexeme

/-- What is wrong at a place. The wording is empty where only the place is known. -/
structure SyntaxFault where
  wording : String
  position : Nat
  deriving DecidableEq, Repr

def SyntaxFault.at (position : Nat) : SyntaxFault := ⟨"", position⟩

end Phrasebook.Script
