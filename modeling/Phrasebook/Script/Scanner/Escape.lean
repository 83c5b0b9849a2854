import Phrasebook.Script.Scanner.Number
import Phrasebook.Text.Blank

/-!
Escapes in strings, templates and names.
-/
namespace Phrasebook.Script

/-- A number written in hexadecimal digits, where it ends, and the places of its faults. It has no
value if there are too few digits. -/
structure HexRun where
  value : Option Nat
  stop : Nat
  faults : List Nat

def Source.readHexFrom (src : Source) (start : Nat) :
    (fuel : Nat) → (most : Nat) → HexRun → HexRun
  | 0, _, run => { run with value := none }
  | _, 0, run => run
  | fuel + 1, most + 1, run =>
    match src[run.stop]? with
    | some '_' =>
      let placed := src[run.stop + 1]?.any isHexDigit
      src.readHexFrom start fuel (most + 1)
        { run with
          stop := run.stop + 1
          faults := if placed then run.faults else run.faults ++ [start] }
    | some c =>
      match Text.hexValue? c with
      | some digit =>
        src.readHexFrom start fuel most
          { run with value := some (16 * run.value.getD 0 + digit), stop := run.stop + 1 }
      | none => { run with value := none }
    | none => { run with value := none }

def Source.readHex (src : Source) (count : Nat) (i : Nat) : HexRun :=
  src.readHexFrom i (src.size + 1 - i) count ⟨none, i, []⟩

def Source.readAllHex (src : Source) (i : Nat) : HexRun :=
  let digits := src.digitsAt isHexDigit i
  let value := (src.slice i digits.stop).foldl
    (fun n c => match Text.hexValue? c with
      | some digit => 16 * n + digit
      | none => n) 0
  ⟨if digits.found then some value else none, digits.stop, digits.faults i⟩

def Source.readCodePoint (src : Source) (i : Nat) : HexRun :=
  if src[i]? = some '\x7b' then
    let run := src.readAllHex (i + 1)
    if run.value.any (· ≤ 0x10ffff) then
      if src[run.stop]? = some '\x7d' then { run with stop := run.stop + 1 }
      else { run with value := none }
    else { run with value := none }
  else src.readHex 4 i

inductive Escape where
  | units (units : List Nat) (stop : Nat) (faults : List Nat)
  /-- An octal number, which only scripts that are no modules have. -/
  | octal (value : Nat) (stop : Nat)
  | bad (stop : Nat) (faults : List Nat)

def HexRun.escape (run : HexRun) : Escape :=
  match run.value with
  | some value => .units [value] run.stop run.faults
  | none => .bad run.stop run.faults

def Source.readOctal (src : Source) (i : Nat) : Escape :=
  let most := if src[i]?.any (· ≤ '3') then i + 3 else i + 2
  let stop := min most (src.skip isOctalDigit i)
  .octal ((src.slice i stop).foldl (fun n c => 8 * n + (c.toNat - 0x30)) 0) stop

def Source.readEscape (src : Source) (i : Nat) : Escape :=
  let single (n : Nat) : Escape := .units [n] (i + 1) []
  match src[i]? with
  | none => .bad i []
  | some 'n' => single 10
  | some 't' => single 9
  | some 'r' => single 13
  | some 'b' => single 8
  | some 'v' => single 11
  | some 'f' => single 12
  | some 'x' => (src.readHex 2 (i + 1)).escape
  | some 'u' => (src.readCodePoint (i + 1)).escape
  | some '\r' => .units [] (if src[i + 1]? = some '\n' then i + 2 else i + 1) []
  | some c =>
    if Text.isLineBreak c then .units [] (i + 1) []
    else if c = '0' ∧ !(src[i + 1]?.any isOctalDigit) then single 0
    else if isOctalDigit c then src.readOctal i
    else single c.toNat

/-- The text of code units, with surrogate pairs joined. A lone surrogate is no text. -/
def textOfUnits? : List Nat → Option (List Char)
  | [] => some []
  | high :: low :: units =>
    if 0xd800 ≤ high ∧ high ≤ 0xdbff ∧ 0xdc00 ≤ low ∧ low ≤ 0xdfff then
      let c := Char.ofNat (0x10000 + (high - 0xd800) * 0x400 + (low - 0xdc00))
      (textOfUnits? units).map (c :: ·)
    else if 0xd800 ≤ high ∧ high ≤ 0xdfff then none
    else (textOfUnits? (low :: units)).map (Char.ofNat high :: ·)
  | [unit] => if 0xd800 ≤ unit ∧ unit ≤ 0xdfff then none else some [Char.ofNat unit]

end Phrasebook.Script
