import Phrasebook.Script.Operators

/-!
Markup elements in scripts. An element leaves the cursor on the `>` that closes it, since what stands
behind that may be a part of another element's text.
-/
namespace Phrasebook.Script.Parser

variable {src : Source}

/-- Makes what stands from position `i` on among the children of an element the current token. -/
def moveToChild (i : Nat) : Parser src Unit := do
  let (lexeme, faults) := src.scanChild i
  faults.forM note
  moveOn lexeme

def rescanChild : Parser src Unit := do
  let (lexeme, faults) := src.scanChild (← current).first
  faults.forM note
  modify fun c => { c with lexeme, next := none }

def isElementNamePart (c : Char) : Bool := Text.isIdentifierPart c || c = '-'

def elementWord : Parser src String := do
  match ← token with
  | .word _ _ =>
    let start := (← current).first
    let stop := src.skip isElementNamePart start
    moveTo stop
    return String.ofList (src.slice start stop)
  | _ => unexpected

def elementName : Parser src (List String) := do
  let first ← elementWord
  if ← eatMark ":" then return [first, ":", ← elementWord]
  let names ← collect do
    unless ← eatMark "." do return none
    return some (← elementWord)
  return first :: names

def container (r : Rules src) : Parser src (Outline src) := do
  expectMark "\x7b"
  let value ← allowingIn r.expression
  expectMark "\x7d"
  return value

/-- Whether a tag ends here. A mark that only begins with `>` is read again as that alone. -/
def atTagEnd : Parser src Bool := do
  if let .mark text := ← token then
    if text.startsWith ">" then inTypes rescan
  isMark ">"

/-- The value of an attribute, from its `=` on. Strings hold no escapes here. -/
def attributeValue (r : Rules src) : Parser src (Outline src) := do
  let scope ← read
  let gap := src.skipGap scope.mode (src.size + 1) ⟨(← current).stop, false, none, []⟩
  gap.faults.forM note
  match src[gap.stop]? with
  | some c =>
    if c = '"' ∨ c = '\'' then
      let stop := src.skip (· ≠ c) (gap.stop + 1)
      if stop = src.size then fail gap.stop
      moveTo (stop + 1)
      return .empty
    moveTo gap.stop
    unless c = '<' do return ← container r
    let inner ← r.element
    advance
    return inner
  | none => fail gap.stop

def elementAttribute (r : Rules src) : Parser src (Outline src) := do
  if ← eatMark "\x7b" then
    expectMark "..."
    let value ← allowingIn r.assignment
    expectMark "\x7d"
    return value
  let _ ← elementWord
  if ← eatMark ":" then discard elementWord
  if ← isMark "=" then attributeValue r else return .empty

def elementAttributes (r : Rules src) : Parser src (List (Outline src)) := collect do
  if (← isMark "/") ∨ (← atTagEnd) then return none
  return some (← elementAttribute r)

/-- The expression between braces among the children of an element, which may be empty or spread.
The cursor is left on the closing brace. -/
def childContainer (r : Rules src) : Parser src (Outline src) := do
  expectMark "\x7b"
  if ← isMark "\x7d" then return .empty
  discard <| eatMark "..."
  let value ← allowingIn r.expression
  unless ← isMark "\x7d" do unexpected
  return value

/-- A child of an element, or none in front of a closing tag. -/
def child? (r : Rules src) : Parser src (Option (Outline src)) := do
  rescanChild
  let lexeme ← current
  match lexeme.token with
  | .elementText =>
    moveToChild lexeme.stop
    return some .empty
  | .mark "\x7b" =>
    let value ← childContainer r
    moveToChild (← current).stop
    return some value
  | .mark "<" =>
    if (← peek).isMark "/" then return none
    let inner ← r.element
    moveToChild (← current).stop
    return some inner
  | _ => unexpected

def element (r : Rules src) : Parser src (Outline src) := do
  let start ← place
  expectMark "<"
  let name ← if ← atTagEnd then pure [] else elementName
  let types ← if (← read).typed ∧ (← isMark "<") then pure [← typeArguments r] else pure []
  let attributes ← elementAttributes r
  let opening := attributes ++ types
  let isEmpty ← if name.isEmpty then pure false else eatMark "/"
  if isEmpty then
    unless ← atTagEnd do unexpected
    return .node .group start opening
  unless ← atTagEnd do unexpected
  moveToChild (← current).stop
  let children ← collect (child? r)
  let closing ← place
  expectMark "<"
  expectMark "/"
  let closingName ← if ← atTagEnd then pure [] else elementName
  unless closingName = name do fail closing
  unless ← atTagEnd do unexpected
  return .node .group start (opening ++ children)

end Phrasebook.Script.Parser
