import Phrasebook.Script.Outline
import Phrasebook.Script.Scanner.Token

/-!
Parsers of scripts: functions on a cursor that stands on one token, with the syntax rules that hold
where it stands. A fault that reading goes on after is noted in the cursor; another one ends the
parser, and what was noted before stays noted.
-/
namespace Phrasebook.Script

variable {src : Source}

structure Scope where
  /-- Types may be written. -/
  typed : Bool
  /-- Markup elements may be written. -/
  elements : Bool
  /-- Faults that only a module has are noted. -/
  strict : Bool
  /-- No faults are noted. -/
  quiet : Bool
  inType : Bool
  inFunction : Bool
  /-- In a function that is no arrow function. -/
  inPlainFunction : Bool
  inAsync : Bool
  inGenerator : Bool
  inParameters : Bool
  inClass : Bool
  /-- In the value of a field, or in a static block. -/
  inField : Bool
  hasSuperclass : Bool
  /-- Members of `super` may be used. -/
  allowsSuper : Bool
  canBreak : Bool
  canContinue : Bool
  labels : List String
  /-- `in` is an operator. -/
  allowsIn : Bool
  /-- In a branch of a conditional expression. -/
  inConditional : Bool
  /-- A colon is expected behind the expression: the middle of a conditional. -/
  beforeColon : Bool
  /-- Declarations have no values here. -/
  ambient : Bool
  /-- `extends` behind an inferred type is its bound, not a conditional type. -/
  noConditional : Bool
  /-- In the head of a loop. -/
  inLoopHead : Bool
  /-- In such a head behind `for await`. -/
  inAwaitHead : Bool

def Scope.mode (scope : Scope) : Mode := ⟨scope.typed, scope.inType, scope.strict⟩

/-- A place in a script: the token to read next, the one behind it if it has been looked at, the one
before it, and the faults noted so far, the latest first. -/
structure Cursor (src : Source) where
  lexeme : Lexeme src
  next : Option (Lexeme src)
  last : Lexeme src
  /-- Where the expression starts that may turn out to be the head of an arrow function. -/
  arrowStart : Option Nat
  faults : List SyntaxFault
  deriving Inhabited

abbrev Parser (src : Source) := ReaderT Scope (ExceptT SyntaxFault (StateM (Cursor src)))

namespace Parser

def current : Parser src (Lexeme src) := do return (← get).lexeme

def token : Parser src Token := do return (← current).token

def place : Parser src Nat := do return (← current).start

def last : Parser src (Lexeme src) := do return (← get).last

def note (position : Nat) : Parser src Unit := do
  unless (← read).quiet do
    modify fun c => { c with faults := .at position :: c.faults }

def scanFrom (i : Nat) : Parser src (Lexeme src) := do
  let scope ← read
  let (lexeme, faults) := src.scan scope.mode i
  faults.forM note
  return lexeme

def moveOn (lexeme : Lexeme src) : Parser src Unit :=
  modify fun c => { c with lexeme, next := none, last := c.lexeme }

def advance : Parser src Unit := do
  let c ← get
  match c.next with
  | some lexeme => moveOn lexeme
  | none => moveOn (← scanFrom c.lexeme.stop)

def moveTo (i : Nat) : Parser src Unit := do moveOn (← scanFrom i)

def peek : Parser src (Lexeme src) := do
  let c ← get
  match c.next with
  | some lexeme => return lexeme
  | none =>
    let lexeme ← scanFrom c.lexeme.stop
    modify fun c => { c with next := some lexeme }
    return lexeme

/-- Reads a mark again from its first character on. It keeps its place. -/
def rescan : Parser src Unit := do
  let lexeme ← current
  match h : lexeme.token with
  | .mark text =>
    if hopening : isOpeningMark text then
      let again ← scanFrom lexeme.first
      modify fun c =>
        { c with
          lexeme :=
            { again with
              start := lexeme.start
              newline := lexeme.newline
              opens := (Lexeme.showsOpening_of_mark h hopening).opens_token _ }
          next := none }
  | _ => return

/-- Notes what is wrong with the current token, if it is none, and passes over it. -/
def noteToken : Parser src Unit := do
  if let .faulty position := ← token then
    advance
    note position

/-- Notes a fault that reading goes on after. -/
def report (position : Nat) : Parser src Unit := do
  unless (← read).quiet do
    noteToken
    note position

def fail {α : Type} (position : Nat) : Parser src α := throw (.at position)

/-- Ends reading with a fault at a place, after what is wrong with the current token. -/
def refuse {α : Type} (position : Nat) : Parser src α := do
  noteToken
  fail position

def unexpected {α : Type} : Parser src α := do
  refuse (← place)

/-- Runs a parser without noting faults, and comes back if it gives up. -/
def attempt {α : Type} (p : Parser src (Option α)) : Parser src (Option α) := fun scope cursor =>
  match p { scope with quiet := true } cursor with
  | (.ok (some a), after) => (.ok (some a), after)
  | (.ok none, _) => (.ok none, cursor)
  | (.error _, _) => (.ok none, cursor)

/-- Runs a parser without noting faults and comes back, whatever it finds. A fault answers `false`.
-/
def ahead (p : Parser src Bool) : Parser src Bool := fun scope cursor =>
  match p { scope with quiet := true } cursor with
  | (.ok answer, _) => (.ok answer, cursor)
  | (.error _, _) => (.ok false, cursor)

/-- Repeats a step until it answers `none`. The fuel bounds the steps. -/
def iterateWith {α : Type} (step : α → Parser src (Option α)) : (fuel : Nat) → α → Parser src α
  | 0, a => return a
  | fuel + 1, a => do
    match ← step a with
    | none => return a
    | some b => iterateWith step fuel b

def iterate {α : Type} (step : α → Parser src (Option α)) (a : α) : Parser src α := do
  iterateWith step (src.size + 1) a

/-- The items that a step finds, until it answers `none`. -/
def collect {α : Type} (item : Parser src (Option α)) : Parser src (List α) := do
  let found ← iterate (fun found => do return (← item).map (· :: found)) []
  return found.reverse

def isMark (text : String) : Parser src Bool := do return (← current).isMark text

def isMarkIn (texts : List String) : Parser src Bool := do
  match ← token with
  | .mark text => return text ∈ texts
  | _ => return false

def isWord (text : String) : Parser src Bool := do return (← current).isKeyword text

/-- The place of the current token, if it is a certain keyword. -/
def wordPlace? (word : String) : Parser src (Option (WordPlace src word)) := do
  let lexeme ← current
  if h : lexeme.token = .word word false then return some ⟨lexeme.start, lexeme.opens_of_word h⟩
  else return none

/-- Whether the current token is a keyword in front of a token that fits, which is looked at only
then. -/
def isWordBefore (text : String) (fits : Lexeme src → Bool) : Parser src Bool := do
  if ← isWord text then return fits (← peek) else return false

/-- Whether the current token is a mark in front of a token that fits, which is looked at only then.
-/
def isMarkBefore (text : String) (fits : Lexeme src → Bool) : Parser src Bool := do
  if ← isMark text then return fits (← peek) else return false

def atEnd : Parser src Bool := do return (← token) = .finish

def onNewLine : Parser src Bool := do return (← current).newline

def eatMark (text : String) : Parser src Bool := do
  if ← isMark text then advance; return true else return false

def eatWord (text : String) : Parser src Bool := do
  if ← isWord text then advance; return true else return false

def takeWord? (word : String) : Parser src (Option (WordPlace src word)) := do
  let found ← wordPlace? word
  if found.isSome then advance
  return found

def expectMark (text : String) : Parser src Unit := do
  unless ← eatMark text do fail (← place)

def expectWord (text : String) : Parser src Unit := do
  unless ← eatWord text do fail (← place)

/-- Whether a statement may end in front of the current token. A line break, a closing brace or the
end of the script stands for a semicolon. -/
def atStatementEnd : Parser src Bool := do
  let lexeme ← current
  return lexeme.isMark ";" || lexeme.isMark "\x7d" || lexeme.newline || lexeme.token = .finish

def eatSemicolon : Parser src Bool := do
  if ← eatMark ";" then return true
  atStatementEnd

def semicolon : Parser src Unit := do
  unless ← eatSemicolon do fail (← place)

/-- The rest of a list separated by commas up to a closing mark, which is not read. A comma may
follow the last item; its place is kept. -/
def commaItems {α : Type} (close : String) (item : Parser src α) :
    Parser src (List α × Option Nat) := do
  let (items, comma) ← iterate (fun (items, comma) => do
      if ← isMark close then return none
      let a ← item
      if ← isMark close then return some (a :: items, comma)
      expectMark ","
      let place := (← last).start
      return some (a :: items, if ← isMark close then some place else comma)) ([], none)
  return (items.reverse, comma)

/-- A place between brackets or behind a statement's keyword, where `in` is an operator. -/
def allowingIn {α : Type} (p : Parser src α) : Parser src α :=
  withReader ({ · with allowsIn := true }) p

/-- A place from which the colon of a conditional is out of sight. -/
def apartFromColon {α : Type} (p : Parser src α) : Parser src α :=
  withReader ({ · with beforeColon := false }) p

def inTypes {α : Type} (p : Parser src α) : Parser src α :=
  withReader ({ · with inType := true }) p

def outOfTypes {α : Type} (p : Parser src α) : Parser src α :=
  withReader ({ · with inType := false }) p

end Parser

structure Rules (src : Source) where
  assignment : Parser src (Outline src)
  expression : Parser src (Outline src)
  unary : Parser src (Outline src)
  /-- The operators of higher rank than some, behind a first operand. -/
  operation : Outline src → Nat → Parser src (Outline src)
  /-- An expression with the accesses and calls behind it. -/
  callee : Parser src (Outline src)
  /-- The same without calls, or a `new` expression. -/
  construction : Parser src (Outline src)
  /-- A statement, where declarations may stand or not. -/
  statement : (declares : Bool) → Parser src (Outline src)
  /-- A statement, an import or an export. -/
  item : Parser src (Outline src)
  /-- A name or a pattern that binds names, where `let` is no name or one. -/
  binding : (noLet : Bool) → Parser src (Outline src)
  anyType : Parser src (Outline src)
  /-- A type that is no conditional type. -/
  plainType : Parser src (Outline src)
  element : Parser src (Outline src)
  /-- A namespace from its name on. -/
  namespaceRest : Parser src (Outline src)

end Phrasebook.Script
