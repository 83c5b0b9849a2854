import Phrasebook.Script.Scanner.Escape

/-!
String literals, and the pieces of templates.
-/
namespace Phrasebook.Script

def stringToken (units : List Nat) : Token :=
  .string ((textOfUnits? units.reverse).map String.ofList)

/-- Reads a string literal from behind its opening quote. One that is not closed ends with its line,
and is reported where it starts. -/
def Source.readQuotedFrom (src : Source) (mode : Mode) (quote : Char) (start : Nat) :
    (fuel : Nat) → Nat → (units faults : List Nat) → Reading
  | 0, i, _, faults => .bad start i faults
  | fuel + 1, i, units, faults =>
    match src[i]? with
    | none => ⟨stringToken units, i, faults ++ [start]⟩
    | some c =>
      if c = quote then ⟨stringToken units, i + 1, faults⟩
      else if c = '\n' ∨ c = '\r' then ⟨stringToken units, i, faults ++ [start]⟩
      else if c = '\\' then
        match src.readEscape (i + 1) with
        | .units escaped stop more =>
          src.readQuotedFrom mode quote start fuel stop (escaped.reverse ++ units) (faults ++ more)
        | .octal value stop =>
          src.readQuotedFrom mode quote start fuel stop (value :: units)
            (faults ++ mode.strictFault i)
        | .bad stop more => .bad i stop (faults ++ more)
      else src.readQuotedFrom mode quote start fuel (i + 1) (c.toNat :: units) faults

def Source.readQuoted (src : Source) (mode : Mode) (quote : Char) (start : Nat) : Reading :=
  src.readQuotedFrom mode quote start (src.size + 1 - start) (start + 1) [] []

theorem Source.opens_readQuotedFrom (src : Source) (mode : Mode) (quote : Char) (start fuel : Nat)
    (position : Nat) (i : Nat) (units faults : List Nat) :
    (src.readQuotedFrom mode quote start fuel i units faults).token.Opens src position := by
  fun_induction Source.readQuotedFrom src mode quote start fuel i units faults with
  | case5 | case6 | case8 => assumption
  | _ => trivial

theorem Source.opens_readQuoted (src : Source) (mode : Mode) (quote : Char) (start position : Nat) :
    (src.readQuoted mode quote start).token.Opens src position :=
  src.opens_readQuotedFrom mode quote start _ position _ _ _

/-- The text between two interpolations. An escape that stands for nothing leaves it without a
value; the place of the last one is kept. -/
structure Piece where
  units : List Nat
  stop : Nat
  last : Bool
  badEscape : Option Nat
  faults : List Nat

/-- Reads a piece up to the next interpolation or the closing mark. Line breaks become line feeds.
-/
def Source.readPieceFrom? (src : Source) : (fuel : Nat) → Piece → Option Piece
  | 0, _ => none
  | fuel + 1, piece => do
    let i := piece.stop
    let c ← src[i]?
    match c with
    | '\x60' => some { piece with units := piece.units.reverse, stop := i + 1, last := true }
    | '\\' =>
      let piece : Piece :=
        match src.readEscape (i + 1) with
        | .units escaped stop more =>
          { piece with
            units := escaped.reverse ++ piece.units
            stop
            faults := piece.faults ++ more }
        | .octal _ _ => { piece with stop := i + 2, badEscape := some i }
        | .bad stop more =>
          { piece with stop, badEscape := some i, faults := piece.faults ++ more }
      src.readPieceFrom? fuel piece
    | '\r' =>
      let stop := if src[i + 1]? = some '\n' then i + 2 else i + 1
      src.readPieceFrom? fuel { piece with units := 10 :: piece.units, stop }
    | c =>
      if c = '$' ∧ src[i + 1]? = some '\x7b' then
        some { piece with units := piece.units.reverse, stop := i + 2 }
      else src.readPieceFrom? fuel { piece with units := c.toNat :: piece.units, stop := i + 1 }

def Source.readPiece? (src : Source) (i : Nat) : Option Piece :=
  src.readPieceFrom? (src.size + 1 - i) ⟨[], i, false, none, []⟩

def Piece.text? (piece : Piece) : Option String :=
  match piece.badEscape with
  | some _ => none
  | none => (textOfUnits? piece.units).map String.ofList

end Phrasebook.Script
