import Phrasebook.Call
import Phrasebook.Script.Grammar
import Phrasebook.Text.Width

/-!
The phrase calls in a script, and the places they stand at.
-/
namespace Phrasebook.Script

/-- The positions behind the line breaks of a text. A carriage return and the line feed behind it
are one break. -/
def lineStarts : List Char → (position : Nat) → List Nat
  | [], _ => []
  | '\r' :: '\n' :: cs, i => (i + 2) :: lineStarts cs (i + 2)
  | c :: cs, i =>
    if c = '\n' ∨ c = '\r' then (i + 1) :: lineStarts cs (i + 1) else lineStarts cs (i + 1)

/-- A script with the starts of its lines, without that of the first one. -/
structure LinedSource where
  source : Source
  starts : List Nat

/-- Finds the lines of a script. A line break at the end of the text starts no line. -/
def Source.lined (src : Source) : LinedSource :=
  ⟨src, (lineStarts src.toList 0).filter (· < src.size)⟩

def unitCount (c : Char) : Nat :=
  if c.toNat < 0x10000 then 1 else 2

/-- The columns a character moves the display column by. -/
def columnsOf (c : Char) : Nat :=
  if c = '\t' then 4
  else if c.toNat < 0x20 then 0
  else unitCount c + (Text.charWidth? c).getD 0 - 1

namespace LinedSource

def lineAt (text : LinedSource) (position : Nat) : Nat :=
  text.starts.countP (· ≤ position) + 1

def lineStartAt (text : LinedSource) (position : Nat) : Nat :=
  (text.starts.takeWhile (· ≤ position)).getLast?.getD 0

/-- The display column of a position, counted from 1. -/
def columnAt (text : LinedSource) (position : Nat) : Nat :=
  (text.source.slice (text.lineStartAt position) position).foldr
    (fun c columns => columnsOf c + columns) 1

/-- The text from the start of a position's line up to the next line feed. -/
def textOfLineAt (text : LinedSource) (position : Nat) : String :=
  let start := text.lineStartAt position
  String.ofList (text.source.slice start (text.source.skip (· ≠ '\n') start))

def siteOf (text : LinedSource) (file : String) (position : Nat) : Site :=
  ⟨file, text.lineAt position, text.columnAt position, text.textOfLineAt position⟩

end LinedSource

def namesOf? {src : Source} (argument : Option (Outline src)) : Option (List String) := do
  (← (← argument).positional?).propertyNames?

/-- An invocation of one of the functions, if its first argument is made of literals. -/
def callOf? {src : Source} (functions : List String) (file : String) (text : LinedSource)
    (made : Invocation src) : Option Call :=
  if made.callee ∈ functions then do
    let key ← (← (← made.arguments[0]?).positional?).fold?
    some
      { site := text.siteOf file made.start
        callee := made.callee
        key
        substitutions := namesOf? made.arguments[1]?
        tags := (namesOf? made.arguments[2]?).getD []
        origin := .script }
  else none

end Phrasebook.Script
