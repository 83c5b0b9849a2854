import Phrasebook.Script.Scanner.Mode
import Phrasebook.Text.Digits
import Phrasebook.Text.Identifier

/-!
Numbers.
-/
namespace Phrasebook.Script

/-- Digits of a base with the separators among them: the position behind them, whether there is a
digit at all, and how many separators are not followed by one. -/
structure Digits where
  stop : Nat
  found : Bool
  misplaced : Nat

def Source.skipDigits (src : Source) (isDigit : Char → Bool) (digits : Digits) : Digits :=
  let i := digits.stop
  if h : i < src.size then
    if src[i] = '_' then
      let placed := src[i + 1]?.any isDigit
      Source.skipDigits src isDigit
        ⟨i + 1, digits.found, if placed then digits.misplaced else digits.misplaced + 1⟩
    else if isDigit src[i] then Source.skipDigits src isDigit ⟨i + 1, true, digits.misplaced⟩
    else digits
  else digits
termination_by src.size - digits.stop

def Source.digitsAt (src : Source) (isDigit : Char → Bool) (i : Nat) : Digits :=
  src.skipDigits isDigit ⟨i, false, 0⟩

/-- The faults of misplaced separators, which are reported where the digits begin. -/
def Digits.faults (digits : Digits) (start : Nat) : List Nat :=
  List.replicate digits.misplaced start

def isOctalDigit (c : Char) : Bool := '0' ≤ c && c ≤ '7'

def isBinaryDigit (c : Char) : Bool := c = '0' || c = '1'

def isHexDigit (c : Char) : Bool := (Text.hexValue? c).isSome

/-- A number that ends at `stop`, where no name may begin. -/
def Source.endNumber (src : Source) (stop : Nat) (faults late : List Nat) : Reading :=
  if src[stop]?.any Text.isIdentifierStart then .bad stop stop faults
  else ⟨.number, stop, faults ++ late⟩

theorem Source.opens_endNumber (src : Source) (stop : Nat) (faults late : List Nat)
    (position : Nat) : (src.endNumber stop faults late).token.Opens src position := by
  rw [Source.endNumber]
  split <;> trivial

def Source.readBased (src : Source) (isDigit : Char → Bool) (start : Nat) : Reading :=
  let digits := src.digitsAt isDigit start
  let faults := digits.faults start
  if !digits.found then .bad start digits.stop faults
  else if src[digits.stop]? = some 'n' then ⟨.bigint, digits.stop + 1, faults⟩
  else src.endNumber digits.stop faults []

theorem Source.opens_readBased (src : Source) (isDigit : Char → Bool) (start position : Nat) :
    (src.readBased isDigit start).token.Opens src position := by
  rw [Source.readBased]
  split
  · trivial
  · split
    · trivial
    · exact src.opens_endNumber _ _ _ position

def Source.readExponent (src : Source) (i : Nat) (faults : List Nat) : Reading :=
  if src[i]? = some 'e' ∨ src[i]? = some 'E' then
    let start := if src[i + 1]? = some '+' ∨ src[i + 1]? = some '-' then i + 2 else i + 1
    let digits := src.digitsAt Char.isDigit start
    let faults := faults ++ digits.faults start
    if digits.found then src.endNumber digits.stop faults [] else .bad start digits.stop faults
  else src.endNumber i faults []

def Source.readFraction (src : Source) (i : Nat) (faults : List Nat) : Reading :=
  if src[i]? = some '.' then
    let digits := src.digitsAt Char.isDigit (i + 1)
    src.readExponent digits.stop (faults ++ digits.faults (i + 1))
  else src.readExponent i faults

theorem Source.opens_readExponent (src : Source) (i : Nat) (faults : List Nat) (position : Nat) :
    (src.readExponent i faults).token.Opens src position := by
  rw [Source.readExponent]
  split
  · generalize (if src[i + 1]? = some '+' ∨ src[i + 1]? = some '-' then i + 2 else i + 1) = start
    dsimp only
    split
    · exact src.opens_endNumber _ _ _ position
    · trivial
  · exact src.opens_endNumber _ _ _ position

theorem Source.opens_readFraction (src : Source) (i : Nat) (faults : List Nat) (position : Nat) :
    (src.readFraction i faults).token.Opens src position := by
  rw [Source.readFraction]
  split <;> exact src.opens_readExponent _ _ position

/-- A number that begins with a digit and has no base of its own. One with a leading zero is octal,
unless it has an eight or a nine; both are faults of a module, and the first is one of a script with
types besides. -/
def Source.readDecimal (src : Source) (mode : Mode) (start : Nat) : Reading :=
  let digits := src.digitsAt Char.isDigit start
  let faults := digits.faults start
  let stop := digits.stop
  let padded := src[start]? = some '0' ∧ start + 1 < stop
  if padded then
    if (src.slice start stop).any fun c => c = '8' || c = '9' then
      src.readFraction stop (faults ++ mode.strictFault start)
    else
      src.endNumber stop faults ((if mode.typed then [start] else []) ++ mode.strictFault start)
  else if src[stop]? = some 'n' then ⟨.bigint, stop + 1, faults⟩
  else src.readFraction stop faults

def Source.readNumber (src : Source) (mode : Mode) (start : Nat) : Reading :=
  if src[start]? = some '.' then src.readFraction start []
  else if src[start]? = some '0' then
    match src[start + 1]? with
    | some 'x' => src.readBased isHexDigit (start + 2)
    | some 'X' => src.readBased isHexDigit (start + 2)
    | some 'o' => src.readBased isOctalDigit (start + 2)
    | some 'O' => src.readBased isOctalDigit (start + 2)
    | some 'b' => src.readBased isBinaryDigit (start + 2)
    | some 'B' => src.readBased isBinaryDigit (start + 2)
    | _ => src.readDecimal mode start
  else src.readDecimal mode start

theorem Source.opens_readDecimal (src : Source) (mode : Mode) (start position : Nat) :
    (src.readDecimal mode start).token.Opens src position := by
  rw [Source.readDecimal]
  split
  · split
    · exact src.opens_readFraction _ _ position
    · exact src.opens_endNumber _ _ _ position
  · split
    · trivial
    · exact src.opens_readFraction _ _ position

theorem Source.opens_readNumber (src : Source) (mode : Mode) (start position : Nat) :
    (src.readNumber mode start).token.Opens src position := by
  rw [Source.readNumber]
  split
  · exact src.opens_readFraction _ _ position
  · split
    · split <;> first
        | exact src.opens_readBased _ _ position
        | exact src.opens_readDecimal mode start position
    · exact src.opens_readDecimal mode start position

end Phrasebook.Script
