/-!
Texts as bytes. A maximal piece of bytes that starts no character stands for one character that
could not be decoded.
-/
namespace Phrasebook.Text

abbrev Bytes := List UInt8

def isContinuation (b : UInt8) : Bool :=
  0x80 ≤ b && b ≤ 0xbf

/-- Whether `second` may follow the lead byte of a character of three or four bytes. -/
def mayFollow (lead second : UInt8) : Bool :=
  if lead = 0xe0 then 0xa0 ≤ second && second ≤ 0xbf
  else if lead = 0xed then 0x80 ≤ second && second ≤ 0x9f
  else if lead = 0xf0 then 0x90 ≤ second && second ≤ 0xbf
  else if lead = 0xf4 then 0x80 ≤ second && second ≤ 0x8f
  else isContinuation second

def lowBits (b : UInt8) (count : Nat) : Nat :=
  b.toNat % Nat.pow 2 count

/-- The character that a byte and those behind it start with, and how many of these belong to it. -/
def decodeLead (lead : UInt8) (rest : Bytes) : Option Char × Nat :=
  if lead < 0x80 then (some (Char.ofNat lead.toNat), 0)
  else if 0xc2 ≤ lead ∧ lead ≤ 0xdf then
    match rest with
    | b :: _ =>
      if isContinuation b then (some (Char.ofNat (lowBits lead 5 * 0x40 + lowBits b 6)), 1)
      else (none, 0)
    | [] => (none, 0)
  else if 0xe0 ≤ lead ∧ lead ≤ 0xef then
    match rest with
    | b :: c :: _ =>
      if !mayFollow lead b then (none, 0)
      else if !isContinuation c then (none, 1)
      else
        (some (Char.ofNat (lowBits lead 4 * 0x1000 + lowBits b 6 * 0x40 + lowBits c 6)), 2)
    | [b] => (none, if mayFollow lead b then 1 else 0)
    | [] => (none, 0)
  else if 0xf0 ≤ lead ∧ lead ≤ 0xf4 then
    match rest with
    | b :: c :: d :: _ =>
      if !mayFollow lead b then (none, 0)
      else if !isContinuation c then (none, 1)
      else if !isContinuation d then (none, 2)
      else
        let high := lowBits lead 3 * 0x40000 + lowBits b 6 * 0x1000
        (some (Char.ofNat (high + lowBits c 6 * 0x40 + lowBits d 6)), 3)
    | [b, c] => (none, if !mayFollow lead b then 0 else if isContinuation c then 2 else 1)
    | [b] => (none, if mayFollow lead b then 1 else 0)
    | [] => (none, 0)
  else (none, 0)

/-- The characters of a text, with `none` for bytes that make up no character. The counter skips the
rest of a character that has been decoded. -/
def decodeFrom : (skip : Nat) → Bytes → List (Option Char)
  | _, [] => []
  | k + 1, _ :: bs => decodeFrom k bs
  | 0, b :: bs =>
    let (c, k) := decodeLead b bs
    c :: decodeFrom k bs

/-- The text of bytes, if they are well formed. -/
def decode? (bytes : Bytes) : Option String :=
  ((decodeFrom 0 bytes).mapM id).map String.ofList

/-- The text of bytes, with a replacement character for what is not well formed. -/
def decodeLossy (bytes : Bytes) : String :=
  String.ofList ((decodeFrom 0 bytes).map (·.getD '\ufffd'))

def encode (s : String) : Bytes :=
  s.toUTF8.toList

end Phrasebook.Text
