import Phrasebook.Call
import Phrasebook.Text.Search

/-!
Phrase calls in markup: a name, an opening parenthesis, a quoted key and a closing parenthesis. The
key ends at the first quote in front of a closing parenthesis.
-/
namespace Phrasebook.Markup

def isQuote (c : Char) : Bool :=
  c = '\'' || c = '"'

def key? : List Char → Option (List Char)
  | c :: d :: cs => if isQuote c ∧ d = ')' then some [] else (key? (d :: cs)).map (c :: ·)
  | _ => none

structure Occurrence where
  name : List Char
  key : List Char
  length : Nat
  deriving DecidableEq, Repr

def callOf? (name text : List Char) : Option Occurrence := do
  match ← Text.dropPrefix? name text with
  | '(' :: c :: rest =>
    if isQuote c then do
      let key ← key? rest
      some ⟨name, key, name.length + key.length + 4⟩
    else none
  | _ => none

/-- The calls in a text with their positions. They do not overlap, and where several functions match
the first one counts. The counter skips the rest of a call that has been found. -/
def occurrences (names : List (List Char)) : (skip position : Nat) → List Char →
    List (Nat × Occurrence)
  | _, _, [] => []
  | k + 1, i, _ :: cs => occurrences names k (i + 1) cs
  | 0, i, c :: cs =>
    match names.findSome? (callOf? · (c :: cs)) with
    | some found => (i, found) :: occurrences names (found.length - 1) (i + 1) cs
    | none => occurrences names 0 (i + 1) cs

def firstLine (text : List Char) : List Char :=
  let line := text.takeWhile (· ≠ '\n')
  if line.length < text.length ∧ line.getLast? = some '\r' then line.dropLast else line

/-- The place of a position, with columns counted in characters. -/
def siteOf (file : String) (text : List Char) (position : Nat) : Site :=
  let before := text.take position
  let column := (before.reverse.takeWhile (· ≠ '\n')).length
  { file
    line := before.count '\n' + 1
    column := column + 1
    sourceLine := String.ofList (firstLine (text.drop (position - column))) }

def calls (functions : List String) (file : String) (text : List Char) : List Call :=
  (occurrences (functions.map String.toList) 0 0 text).map fun (position, found) =>
    { site := siteOf file text position
      callee := String.ofList (found.name.takeWhile (· ≠ '('))
      key := String.ofList found.key
      substitutions := none
      tags := []
      origin := .markup }

end Phrasebook.Markup
