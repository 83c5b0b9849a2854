import Phrasebook.Json.Punctuation

/-!
Passing over JSON values that are of no interest. Their strings and numbers are checked for form
only, and they may be nested to any depth.
-/
namespace Phrasebook.Json

def skipWord (letters s : List Char) : Except Fault (List Char) :=
  (readWord .null letters s).map Prod.snd

/-- Passes over what follows a backslash. Code units are not looked at. -/
def skipEscape : List Char → Except Fault (List Char)
  | [] => .error (.behind .eofString [])
  | 'u' :: s => (readHex s).map Prod.snd
  | c :: s =>
    match simpleEscape? c with
    | some _ => .ok s
    | none => .error (.ahead .invalidEscape (c :: s))

/-- Passes over a string after its opening quote. The text `bound` is no shorter and bounds the
steps. -/
def skipChars : (bound : List Char) → List Char → Except Fault (List Char)
  | _, [] => .error (.behind .eofString [])
  | [], s => .error (.behind .eofString s)
  | _ :: bound, c :: s =>
    if c = '"' then .ok s
    else if c = '\\' then
      match skipEscape s with
      | .error fault => .error fault
      | .ok s => skipChars bound s
    else if c.toNat < 0x20 then .error (.behind .controlCharacter (c :: s))
    else skipChars bound s

def skipString (s : List Char) : Except Fault (List Char) :=
  skipChars s s

def skipExponent (s : List Char) : Except Fault (List Char) :=
  let digits :=
    match s with
    | '+' :: s => s
    | '-' :: s => s
    | s => s
  if digits.head?.any Char.isDigit then .ok (digits.dropWhile Char.isDigit)
  else .error (.ahead .invalidNumber digits)

def skipScale : List Char → Except Fault (List Char)
  | 'e' :: s => skipExponent s
  | 'E' :: s => skipExponent s
  | s => .ok s

def skipAfterWhole : List Char → Except Fault (List Char)
  | '.' :: s =>
    if s.head?.any Char.isDigit then skipScale (s.dropWhile Char.isDigit)
    else .error (.ahead .invalidNumber s)
  | s => skipScale s

def skipNumber : List Char → Except Fault (List Char)
  | '0' :: s =>
    if s.head?.any Char.isDigit then .error (.ahead .invalidNumber s) else skipAfterWhole s
  | c :: s =>
    if c.isDigit then skipAfterWhole (s.dropWhile Char.isDigit)
    else .error (.ahead .invalidNumber (c :: s))
  | [] => .error (.ahead .invalidNumber [])

def skipKey (s : List Char) : Except Fault (List Char) :=
  match skipBlanks s with
  | [] => .error (.ahead .eofObject [])
  | '"' :: s => do
    let s ← skipString s
    (readColon s).map Prod.snd
  | c :: s => .error (.ahead .keyNotString (c :: s))

mutual

/-- Passes over a value. The fuel bounds the steps. -/
def skipValue : (fuel : Nat) → List Char → Except Fault (List Char)
  | 0, s => .error (.ahead .eofValue s)
  | fuel + 1, s =>
    match skipBlanks s with
    | [] => .error (.ahead .eofValue [])
    | 'n' :: s => skipWord "ull".toList s
    | 't' :: s => skipWord "rue".toList s
    | 'f' :: s => skipWord "alse".toList s
    | '"' :: s => skipString s
    | '-' :: s => skipNumber s
    | '[' :: s => skipItems fuel true s
    | '{' :: s => skipMembers fuel true s
    | c :: s => if c.isDigit then skipNumber (c :: s) else .error (.ahead .expectedValue (c :: s))

def skipItems : (fuel : Nat) → (first : Bool) → List Char → Except Fault (List Char)
  | 0, _, s => .error (.ahead .eofArray s)
  | fuel + 1, first, s =>
    match skipBlanks s with
    | [] => .error (.ahead .eofArray [])
    | c :: s =>
      if c = ']' then .ok s
      else if first ∨ c = ',' then do
        let s ← skipValue fuel (if first then c :: s else s)
        skipItems fuel false s
      else .error (.ahead .expectedArrayComma (c :: s))

def skipMembers : (fuel : Nat) → (first : Bool) → List Char → Except Fault (List Char)
  | 0, _, s => .error (.ahead .eofObject s)
  | fuel + 1, first, s =>
    match skipBlanks s with
    | [] => .error (.ahead .eofObject [])
    | c :: s =>
      if c = '}' then .ok s
      else if first ∨ c = ',' then do
        let s ← skipKey (if first then c :: s else s)
        let s ← skipValue fuel s
        skipMembers fuel false s
      else .error (.ahead .expectedObjectComma (c :: s))

end

end Phrasebook.Json
