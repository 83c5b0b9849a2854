/-!
The shortest decimal that reads back as a given binary floating point number.
-/
namespace Phrasebook.Decimal

/-- A binary number `mantissa * 2 ^ exponent`. At a power of two the gap below is half as wide as
the gap above. -/
structure Binary where
  mantissa : Nat
  exponent : Int
  narrowBelow : Bool
  deriving DecidableEq, Repr

def Binary.ofFloat (x : Float) : Binary :=
  let bits := x.toBits.toNat
  let fraction : Nat := bits % Nat.pow 2 52
  let biased : Nat := bits / Nat.pow 2 52 % Nat.pow 2 11
  if biased = 0 then ⟨fraction, -1074, false⟩
  else ⟨Nat.pow 2 52 + fraction, (biased : Int) - 1075, fraction = 0 ∧ biased ≠ 1⟩

/-- The interval of numbers that round to a binary number, over a common denominator. Its ends
belong to it exactly when the mantissa is even. -/
structure Interval where
  value : Nat
  below : Nat
  above : Nat
  denominator : Nat
  closed : Bool

def Binary.interval (b : Binary) : Interval :=
  let scale := Nat.pow 2 b.exponent.toNat
  let value := 4 * b.mantissa * scale
  { value
    below := value - (if b.narrowBelow then scale else 2 * scale)
    above := value + 2 * scale
    denominator := 4 * Nat.pow 2 (-b.exponent).toNat
    closed := b.mantissa % 2 = 0 }

structure Scientific where
  digits : Nat
  exponent : Int
  deriving DecidableEq, Repr

namespace Interval

/-- `n * 10 ^ e` over the denominator of the interval, and the factor that makes both sides whole. -/
def scaled (i : Interval) (n : Nat) (e : Int) : Nat × Nat :=
  (n * Nat.pow 10 e.toNat * i.denominator, Nat.pow 10 (-e).toNat)

def holds (i : Interval) (n : Nat) (e : Int) : Bool :=
  let (x, unit) := i.scaled n e
  if i.closed then i.below * unit ≤ x ∧ x ≤ i.above * unit
  else i.below * unit < x ∧ x < i.above * unit

def distance (i : Interval) (n : Nat) (e : Int) : Nat :=
  let (x, unit) := i.scaled n e
  (x - i.value * unit) + (i.value * unit - x)

/-- The neighbour of the value on the grid of multiples of `10 ^ e` that reads back, the nearer one
if both do. -/
def onGrid? (i : Interval) (e : Int) : Option Nat :=
  let low := i.value * Nat.pow 10 (-e).toNat / (Nat.pow 10 e.toNat * i.denominator)
  match i.holds low e, i.holds (low + 1) e with
  | true, true =>
    if i.distance (low + 1) e < i.distance low e then some (low + 1)
    else if i.distance low e < i.distance (low + 1) e then some low
    else some (low + low % 2)
  | true, false => some low
  | false, true => some (low + 1)
  | false, false => none

def search (i : Interval) : Nat → Int → Scientific
  | 0, e => ⟨0, e⟩
  | fuel + 1, e =>
    match i.onGrid? e with
    | some n => ⟨n, e⟩
    | none => search i fuel (e - 1)

end Interval

def shortest (b : Binary) : Scientific :=
  if b.mantissa = 0 then ⟨0, 0⟩ else b.interval.search 660 309

def pointed (digits : List Char) (whole : Nat) : String :=
  String.ofList (digits.take whole ++ '.' :: digits.drop whole)

/-- Numbers from `10 ^ -5` and below `10 ^ 16` are written positionally, with at least one digit on
either side of the point, and the others with a signed exponent. -/
def Scientific.text (d : Scientific) : String :=
  let digits := (toString d.digits).toList
  let magnitude := digits.length + d.exponent
  if 0 ≤ d.exponent ∧ magnitude ≤ 16 then
    String.ofList (digits ++ List.replicate d.exponent.toNat '0') ++ ".0"
  else if 0 < magnitude ∧ magnitude ≤ 16 then pointed digits magnitude.toNat
  else if -5 < magnitude ∧ magnitude ≤ 0 then
    pointed (List.replicate (1 - magnitude).toNat '0' ++ digits) 1
  else
    let mantissa := if digits.length = 1 then String.ofList digits else pointed digits 1
    let sign := if magnitude ≤ 0 then "-" else "+"
    mantissa ++ "e" ++ sign ++ toString (magnitude - 1).natAbs

def ofFloat (x : Float) : String :=
  let sign := if x.toBits.toNat / Nat.pow 2 63 = 1 then "-" else ""
  sign ++ (shortest (.ofFloat x)).text

end Phrasebook.Decimal
