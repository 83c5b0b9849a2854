import Phrasebook.Script.Loops

/-!
Statements.
-/
namespace Phrasebook.Script.Parser

variable {src : Source}

def ifStatement (r : Rules src) : Parser src (Outline src) := do
  let start ← place
  let (_, parts) ← iterate (fun (more, parts) => do
    unless more do return none
    if ← eatWord "if" then
      let test ← condition r
      let yes ← r.statement false
      return some (← eatWord "else", yes :: test :: parts)
    return some (false, (← r.statement false) :: parts)) (true, [])
  return .node .group start parts.reverse

def valueToEnd (r : Rules src) : Parser src (Outline src) := do
  let value ← allowingIn r.expression
  semicolon
  return .group [value]

def returnStatement (r : Rules src) : Parser src (Outline src) := do
  let start ← place
  advance
  let value ←
    if ← atStatementEnd then
      semicolon
      pure Outline.empty
    else valueToEnd r
  unless (← read).inFunction do report start
  return value

def throwStatement (r : Rules src) : Parser src (Outline src) := do
  advance
  if ← onNewLine then unexpected
  valueToEnd r

def jumpLabel : Parser src (Option String) := do
  if ← eatSemicolon then return none
  let label ← identifier
  semicolon
  return label.name?

/-- `break` leaves loops and cases, and with a label any statement that has it. -/
def breakStatement : Parser src (Outline src) := do
  let start ← place
  advance
  let label ← jumpLabel
  let scope ← read
  if label.any (· ∉ scope.labels) ∨ !scope.canBreak then report start
  return .empty

/-- `continue` stands in loops. -/
def continueStatement : Parser src (Outline src) := do
  let start ← place
  advance
  let label ← jumpLabel
  let scope ← read
  if !scope.canContinue ∨ label.any (· ∉ scope.labels) then report start
  return .empty

def caseBody (r : Rules src) : Parser src (List (Outline src)) := collect do
  if (← isWord "case") ∨ (← isWord "default") ∨ (← isMark "\x7d") ∨ (← atEnd) then return none
  return some (← r.statement true)

def switchCase (r : Rules src) (hasDefault : Bool) : Parser src (Option (Bool × Outline src)) := do
  let isDefault ← isWord "default"
  unless isDefault ∨ (← isWord "case") do return none
  advance
  if isDefault ∧ hasDefault then unexpected
  let test ← if isDefault then pure [] else pure [← allowingIn r.expression]
  expectMark ":"
  return some (isDefault, .group (test ++ (← caseBody r)))

def switchStatement (r : Rules src) : Parser src (Outline src) := do
  let start ← place
  advance
  let subject ← condition r
  expectMark "\x7b"
  let (_, cases) ← withReader ({ · with canBreak := true }) <|
    iterate (fun (hasDefault, cases) => do
      match ← switchCase r hasDefault with
      | none => return none
      | some (isDefault, found) => return some (hasDefault || isDefault, found :: cases))
      (false, [])
  expectMark "\x7d"
  return .node .group start (subject :: cases.reverse)

/-- `catch` with its parameter and its block. -/
def catchClause (r : Rules src) : Parser src (List (Outline src)) := do
  unless ← eatWord "catch" do return []
  let parameter ←
    if ← eatMark "(" then
      let target ← r.binding false
      let types ← optionalType r
      expectMark ")"
      pure [target.withParts types]
    else pure []
  return parameter ++ [← block r]

def finallyClause (r : Rules src) : Parser src (List (Outline src)) := do
  if ← eatWord "finally" then return [← block r] else return []

def tryStatement (r : Rules src) : Parser src (Outline src) := do
  let start ← place
  advance
  let body ← block r
  let stop ← place
  let caught ← catchClause r
  let finished ← finallyClause r
  if caught.isEmpty ∧ finished.isEmpty then report stop
  return .node .group start (body :: caught ++ finished)

/-- `catch` or `finally` without `try`, which is a harmless fault. Nothing is left of it. -/
def strayClause (r : Rules src) : Parser src (Outline src) := do
  report (← place)
  tryCatch (discard (catchClause r)) fun _ => return
  tryCatch (discard (finallyClause r)) fun _ => return
  return .empty

/-- A `with` statement, which is a harmless fault, and two of them where types are written. -/
def withStatement (r : Rules src) : Parser src (Outline src) := do
  let start ← place
  if (← read).typed then report start
  report start
  advance
  let subject ← condition r
  return .node .group start [subject, ← r.statement false]

/-- A statement behind its label. The same label again inside is a harmless fault. -/
def labelledStatement (r : Rules src) (label : String) (start : Nat) :
    Parser src (Outline src) := do
  let outer := (← read).labels.filter (· = label)
  let scope (scope : Scope) : Scope :=
    { scope with canBreak := true, labels := label :: scope.labels }
  let body ← withReader scope do
    unless ← isWord "function" do return ← r.statement false
    let functionAt ← place
    let isGenerator := (← peek).isMark "*"
    let made ← functionDeclaration r false true [] functionAt
    report functionAt
    if isGenerator then report functionAt
    return made
  outer.forM fun _ => note start
  return .node .group start [body]

def behindWord? (r : Rules src) (word : String) (decorators : List (Outline src)) (start : Nat) :
    Parser src (Option (Outline src)) := do
  match word with
  | "declare" => ambientDeclaration? r decorators start
  | "global" => if ← isMark "\x7b" then return some (← namespaceBody r) else return none
  | _ => typedDeclaration? r word decorators start false

/-- The end of a statement that is an expression. An operator in its place is a harmless fault. -/
def expressionEnd (r : Rules src) (value : Outline src) : Parser src (Outline src) := do
  if ← eatSemicolon then return value.asStatement
  match ← token with
  | .mark text =>
    unless (operatorRank? text).isSome do unexpected
    report (← place)
    return (← r.operation value 0).asStatement
  | _ => unexpected

def nameStatement (r : Rules src) (name : Outline src) (word : String)
    (decorators : List (Outline src)) : Parser src (Outline src) := do
  if word = "interface" ∧ (← onNewLine) then
    report name.start
    discard eatSemicolon
    return name.asStatement
  if (← read).typed then
    if let some found ← behindWord? r word decorators name.start then return found
    if word = "interface" then report name.start
  expressionEnd r name

def expressionStatement (r : Rules src) (decorators : List (Outline src)) :
    Parser src (Outline src) := do
  let value ← allowingIn r.expression
  match value.name? with
  | none => expressionEnd r value
  | some word =>
    if ← eatMark ":" then labelledStatement r word value.start
    else nameStatement r value word decorators

def keywordStatement? (r : Rules src) (word : String) : Parser src (Option (Outline src)) := do
  match word with
  | "if" => return some (← ifStatement r)
  | "for" => return some (← forStatement r)
  | "while" => return some (← whileStatement r)
  | "do" => return some (← doStatement r)
  | "return" => return some (← returnStatement r)
  | "throw" => return some (← throwStatement r)
  | "break" => return some (← breakStatement)
  | "continue" => return some (← continueStatement)
  | "switch" => return some (← switchStatement r)
  | "try" => return some (← tryStatement r)
  | "catch" => return some (← strayClause r)
  | "finally" => return some (← strayClause r)
  | "with" => return some (← withStatement r)
  | "debugger" =>
    advance
    semicolon
    return some .empty
  | _ => return none

/-- `await using` with its variables, or an expression that starts with those words. -/
def awaitStatement? (r : Rules src) (declares : Bool) : Parser src (Option (Outline src)) := do
  unless declares do return none
  unless ← isWordBefore "await" (·.isKeyword "using") do return none
  let some word ← takeWord? "await" | return none
  if let some found ← usingStatement? r word.start then return some found
  let value ← r.operation (← awaitRest r word) 0
  discard eatSemicolon
  return some value.asStatement

/-- A declaration of variables, functions or classes. Functions and classes that stand where no
declaration should are harmless faults. -/
def declaration? (r : Rules src) (declares : Bool) (decorators : List (Outline src)) (start : Nat) :
    Parser src (Option (Outline src)) := do
  let scope ← read
  if scope.typed then
    if let some found ← constEnum? r then return some found
  let lexeme ← current
  if lexeme.isKeyword "function" || lexeme.isKeyword "class" then
    unless declares do report lexeme.start
    if lexeme.isKeyword "class" then
      return some (← classRest r decorators false true start)
    return some (← functionDeclaration r false true decorators lexeme.start)
  if lexeme.isKeyword "using" && declares then
    if let some found ← usingStatement? r start then return some found
  match ← variableKind? with
  | some .plain => return some (← variableStatement r .plain)
  | some kind => if declares then return some (← variableStatement r kind) else return none
  | none => return none

/-- An asynchronous function, an enumeration or an interface, if one of them starts on this line. -/
def lineDeclaration? (r : Rules src) (decorators : List (Outline src)) (start : Nat) :
    Parser src (Option (Outline src)) := do
  if ← atAsyncFunction then
    advance
    return some (← functionDeclaration r true true decorators start)
  unless (← read).typed do return none
  let isNamed (next : Lexeme src) : Bool := next.isWord && !next.newline
  if ← isWordBefore "enum" isNamed then
    advance
    return some (← enumRest r start)
  if ← isWordBefore "interface" isNamed then
    advance
    return some (← interfaceRest r start)
  return none

/-- A statement behind its decorators, with which only some declarations have to do. -/
def plainStatement (r : Rules src) (declares : Bool) (decorators : List (Outline src))
    (start : Nat) : Parser src (Outline src) := do
  match ← token with
  | .mark "\x7b" => block r
  | .mark ";" =>
    advance
    return .empty
  | .word text false =>
    if let some found ← keywordStatement? r text then return found
    if let some found ← awaitStatement? r declares then return found
    if let some found ← declaration? r declares decorators start then return found
    if let some found ← lineDeclaration? r decorators start then return found
    expressionStatement r decorators
  | _ => expressionStatement r decorators

def importExpression? (r : Rules src) : Parser src (Option (Outline src)) := do
  unless ← isWord "import" do return none
  let next ← peek
  unless next.isMark "(" || next.isMark "." do return none
  let value ← r.expression
  discard eatSemicolon
  return some value.asStatement

def statement (r : Rules src) (declares : Bool) : Parser src (Outline src) := do
  let start ← place
  let decorators ← if ← isMark "@" then decorators r else pure []
  if let some found ← importExpression? r then return found
  if (← isWord "import") ∨ (← isWord "export") then unexpected
  apartFromColon (plainStatement r declares decorators start)

end Phrasebook.Script.Parser
