import Phrasebook.Json.Scalar

/-!
The punctuation of arrays and objects, one step at a time.
-/
namespace Phrasebook.Json

/-- A bound for the steps in which a text is read: each value in an array or an object takes two
steps, and at least one character. -/
def stepBound (s : List Char) : Nat :=
  2 * s.length + 2

/-- Whether an array goes on. Reads the comma before the next item, or the closing bracket. -/
def nextItem (first : Bool) (s : List Char) : Reading Bool :=
  match skipBlanks s with
  | [] => .error (.ahead .eofArray [])
  | ']' :: s => .ok (false, s)
  | c :: s =>
    if first then .ok (true, c :: s)
    else if c = ',' then
      match skipBlanks s with
      | [] => .error (.ahead .eofValue [])
      | ']' :: s => .error (.ahead .trailingComma (']' :: s))
      | c :: s => .ok (true, c :: s)
    else .error (.ahead .expectedArrayComma (c :: s))

/-- Reads the comma before the next member of an object and its key, or the closing brace. -/
def nextKey (first : Bool) (s : List Char) : Reading (Option String) :=
  match skipBlanks s with
  | [] => .error (.ahead .eofObject [])
  | '}' :: s => .ok (none, s)
  | c :: s =>
    if first then
      if c = '"' then (readString s).map fun (key, s) => (some key, s)
      else .error (.ahead .keyNotString (c :: s))
    else if c = ',' then
      match skipBlanks s with
      | [] => .error (.ahead .eofValue [])
      | '"' :: s => (readString s).map fun (key, s) => (some key, s)
      | '}' :: s => .error (.ahead .trailingComma ('}' :: s))
      | c :: s => .error (.ahead .keyNotString (c :: s))
    else .error (.ahead .expectedObjectComma (c :: s))

def readColon (s : List Char) : Reading Unit :=
  match skipBlanks s with
  | [] => .error (.ahead .eofObject [])
  | ':' :: s => .ok ((), s)
  | c :: s => .error (.ahead .expectedColon (c :: s))

def finish (s : List Char) : Except Fault Unit :=
  match skipBlanks s with
  | [] => .ok ()
  | c :: s => .error (.ahead .trailingCharacters (c :: s))

end Phrasebook.Json
