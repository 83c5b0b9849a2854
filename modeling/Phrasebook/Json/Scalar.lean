import Phrasebook.Json.Basic
import Phrasebook.Json.Fault
import Phrasebook.Text.Digits

/-!
Reading the scalars of JSON: blanks, words, strings and numbers. Each reader returns what it read
and the text after it.
-/
namespace Phrasebook.Json

abbrev Reading (α : Type) := Except Fault (α × List Char)

def isBlank (c : Char) : Bool :=
  c = ' ' || c = '\n' || c = '\t' || c = '\r'

def skipBlanks (s : List Char) : List Char :=
  s.dropWhile isBlank

def readWord (value : Value) : (letters : List Char) → List Char → Reading Value
  | [], s => .ok (value, s)
  | _ :: _, [] => .error (.behind .eofValue [])
  | l :: ls, c :: s => if c = l then readWord value ls s else .error (.ahead .expectedIdent (c :: s))

/-- Reads four hexadecimal digits. Four bytes are taken before they are looked at. -/
def readHex : List Char → Reading Nat
  | s =>
    if byteLength (s.take 4) < 4 then .error (.behind .eofString [])
    else
      match s with
      | a :: b :: c :: d :: rest =>
        match Text.hexValue? a, Text.hexValue? b, Text.hexValue? c, Text.hexValue? d with
        | some a, some b, some c, some d => .ok (((a * 16 + b) * 16 + c) * 16 + d, rest)
        | _, _, _, _ => .error ⟨.invalidEscape, s, 4⟩
      | _ => .error ⟨.invalidEscape, s, 4⟩

def expectEscape (letter : Char) : List Char → Reading Unit
  | [] => .error (.behind .eofString [])
  | c :: s => if c = letter then .ok ((), s) else .error (.ahead .endOfHexEscape (c :: s))

/-- Reads what follows `\u`: one code unit, or a pair of surrogates. -/
def readUnicode (s : List Char) : Except Fault (Char × List Char) := do
  let (high, s) ← readHex s
  if 0xdc00 ≤ high ∧ high ≤ 0xdfff then .error (.behind .loneSurrogate s)
  else if high < 0xd800 ∨ 0xdbff < high then .ok (Char.ofNat high, s)
  else
    let (_, s) ← expectEscape '\\' s
    let (_, s) ← expectEscape 'u' s
    let (low, s) ← readHex s
    if low < 0xdc00 ∨ 0xdfff < low then .error (.behind .loneSurrogate s)
    else .ok (Char.ofNat (0x10000 + (high - 0xd800) * 0x400 + (low - 0xdc00)), s)

def simpleEscape? : Char → Option Char
  | '"' => some '"'
  | '\\' => some '\\'
  | '/' => some '/'
  | 'b' => some '\x08'
  | 'f' => some '\x0c'
  | 'n' => some '\n'
  | 'r' => some '\r'
  | 't' => some '\t'
  | _ => none

def readEscape : List Char → Reading Char
  | [] => .error (.behind .eofString [])
  | 'u' :: s => readUnicode s
  | c :: s =>
    match simpleEscape? c with
    | some e => .ok (e, s)
    | none => .error (.ahead .invalidEscape (c :: s))

/-- Reads a string after its opening quote. The text `bound` is no shorter and bounds the steps. -/
def readChars : (bound : List Char) → List Char → Reading (List Char)
  | _, [] => .error (.behind .eofString [])
  | [], s => .error (.behind .eofString s)
  | _ :: bound, c :: s =>
    if c = '"' then .ok ([], s)
    else if c = '\\' then
      match readEscape s with
      | .error fault => .error fault
      | .ok (e, s) => (readChars bound s).map fun (cs, s) => (e :: cs, s)
    else if c.toNat < 0x20 then .error (.ahead .controlCharacter (c :: s))
    else (readChars bound s).map fun (cs, s) => (c :: cs, s)

def readString (s : List Char) : Reading String :=
  (readChars s s).map fun (cs, rest) => (String.ofList cs, rest)

def maxSignificand : Nat := Nat.pow 2 64 - 1

/-- Takes digits into a significand as long as it stays within 64 bits. -/
def takeDigits (significand : Nat) : List Char → Nat × List Char
  | [] => (significand, [])
  | c :: s =>
    if c.isDigit then
      let next := 10 * significand + (c.toNat - 0x30)
      if next ≤ maxSignificand then takeDigits next s else (significand, c :: s)
    else (significand, c :: s)

/-- Multiplies by a power of ten, in steps a double can hold. -/
def scaleBy : (fuel : Nat) → Float → Int → Option Float
  | 0, f, _ => some f
  | fuel + 1, f, e =>
    if e.natAbs ≤ 308 then
      let power := Float.ofScientific 1 false e.natAbs
      if 0 ≤ e then
        let scaled := f * power
        if scaled.isInf then none else some scaled
      else some (f / power)
    else if f == 0 then some f
    else if 0 < e then none
    else scaleBy fuel (f / 1e308) (e + 308)

def floatOf (negative : Bool) (significand : Nat) (exponent : Int) (s : List Char) :
    Reading Number :=
  match scaleBy 8 significand.toUInt64.toFloat exponent with
  | some f => .ok (.float (if negative then -f else f), s)
  | none => .error (.behind .numberOutOfRange s)

def maxExponent : Nat := Nat.pow 2 31 - 1

/-- Takes the digits of an exponent, or stops behind the digit that makes it too large. -/
def takeExponent (exponent : Nat) : List Char → Except (List Char) (Nat × List Char)
  | [] => .ok (exponent, [])
  | c :: s =>
    if c.isDigit then
      let next := 10 * exponent + (c.toNat - 0x30)
      if next ≤ maxExponent then takeExponent next s else .error s
    else .ok (exponent, c :: s)

def readExponent (negative : Bool) (significand : Nat) (start : Int) (s : List Char) :
    Reading Number :=
  let (down, s) :=
    match s with
    | '+' :: s => (false, s)
    | '-' :: s => (true, s)
    | s => (false, s)
  match s with
  | [] => .error (.behind .eofValue [])
  | c :: s =>
    if c.isDigit then
      match takeExponent (c.toNat - 0x30) s with
      | .ok (e, s) => floatOf negative significand (if down then start - e else start + e) s
      | .error s =>
        if significand ≠ 0 ∧ !down then .error (.behind .numberOutOfRange s)
        else .ok (.float (if negative then -0.0 else 0.0), s.dropWhile Char.isDigit)
    else .error (.ahead .invalidNumber (c :: s))

def readScale (negative : Bool) (significand : Nat) (exponent : Int) : List Char → Reading Number
  | 'e' :: s => readExponent negative significand exponent s
  | 'E' :: s => readExponent negative significand exponent s
  | s => floatOf negative significand exponent s

def digitCount (s : List Char) : Nat :=
  (s.takeWhile Char.isDigit).length

/-- Reads the digits after a decimal point. Digits beyond the significand are skipped. -/
def readFraction (negative : Bool) (significand : Nat) (exponent : Int) (s : List Char) :
    Reading Number :=
  match s with
  | [] => .error (.behind .eofValue [])
  | c :: _ =>
    if c.isDigit then
      let (significand, rest) := takeDigits significand s
      let exponent := exponent - (digitCount s - digitCount rest)
      readScale negative significand exponent (rest.dropWhile Char.isDigit)
    else .error (.ahead .invalidNumber s)

def readAfterWhole (negative : Bool) (significand : Nat) : List Char → Reading Number
  | '.' :: s => readFraction negative significand 0 s
  | 'e' :: s => readExponent negative significand 0 s
  | 'E' :: s => readExponent negative significand 0 s
  | s =>
    if !negative then .ok (.natural significand, s)
    else if significand = 0 ∨ Nat.pow 2 63 < significand then
      .ok (.float (-significand.toUInt64.toFloat), s)
    else .ok (.negative (-significand), s)

def readNumber (negative : Bool) : List Char → Reading Number
  | [] => .error (.behind .eofValue [])
  | '0' :: s =>
    match s with
    | c :: _ => if c.isDigit then .error (.ahead .invalidNumber s) else readAfterWhole negative 0 s
    | [] => readAfterWhole negative 0 []
  | c :: s =>
    if c.isDigit then
      let (significand, rest) := takeDigits 0 (c :: s)
      let beyond := rest.takeWhile Char.isDigit
      if beyond.isEmpty then readAfterWhole negative significand rest
      else
        match rest.dropWhile Char.isDigit with
        | '.' :: s => readFraction negative significand beyond.length s
        | s => readScale negative significand beyond.length s
    else .error (.ahead .invalidNumber (c :: s))

end Phrasebook.Json
