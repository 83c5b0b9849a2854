/-!
The text of a script. Positions count characters.
-/
namespace Phrasebook.Script

abbrev Source := Array Char

def Source.skip (src : Source) (p : Char → Bool) (i : Nat) : Nat :=
  if h : i < src.size then
    if p src[i] then Source.skip src p (i + 1) else i
  else i
termination_by src.size - i

def Source.slice (src : Source) (start stop : Nat) : List Char :=
  (src.extract start stop).toList

def Source.hasAt (src : Source) (i : Nat) (text : String) : Bool :=
  text.toList.zipIdx.all fun (c, k) => src[i + k]? = some c

theorem Source.getElem?_of_hasAt {src : Source} {i : Nat} {text : String} {c : Char}
    (h : src.hasAt i text) (hc : text.toList.head? = some c) : src[i]? = some c := by
  obtain ⟨rest, htext⟩ := List.head?_eq_some_iff.mp hc
  rw [Source.hasAt, htext, List.zipIdx_cons, List.all_cons, Bool.and_eq_true] at h
  simpa using h.1

/-- What may stand where a text is reported besides its first character: an escape for that, or what
begins a markup comment, a merge marker or a decorator in front. -/
def isOpening (c : Char) : Bool :=
  c = '\\' || c = '<' || c = '>' || c = '-' || c = '=' || c = '@'

/-- Whether a text may be reported at a position: it begins there, or what may be in front does. -/
def Source.Opens (src : Source) (position : Nat) (text : String) : Prop :=
  ∀ c, text.toList.head? = some c →
    ∃ found, src[position]? = some found ∧ (found = c ∨ isOpening found)

def Source.ShowsOpening (src : Source) (position : Nat) : Prop :=
  ∃ found, src[position]? = some found ∧ isOpening found

theorem Source.ShowsOpening.opens {src : Source} {position : Nat} (h : src.ShowsOpening position)
    (text : String) : src.Opens position text := by
  obtain ⟨found, hfound, hopening⟩ := h
  exact fun _ _ => ⟨found, hfound, .inr hopening⟩

/-- A place where a word is reported. -/
structure WordPlace (src : Source) (word : String) where
  start : Nat
  opens : src.Opens start word

end Phrasebook.Script
