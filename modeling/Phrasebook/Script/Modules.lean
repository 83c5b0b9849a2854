import Phrasebook.Script.Statements

/-!
Imports and exports.
-/
namespace Phrasebook.Script.Parser

variable {src : Source}

def moduleName : Parser src Unit := do
  unless (← token) matches .string _ do unexpected
  advance

/-- Attributes behind the name of a module, which only scripts with types have. -/
def moduleAttributes (r : Rules src) : Parser src (List (Outline src)) := do
  unless (← read).typed ∧ !(← onNewLine) do return []
  unless (← isWord "assert") ∨ (← isWord "with") do return []
  advance
  unless ← isMark "\x7b" do unexpected
  return [← objectLiteral r]

def fromModule (r : Rules src) : Parser src (Outline src) := do
  expectWord "from"
  moduleName
  let attributes ← moduleAttributes r
  semicolon
  return .group attributes

def listedName : Parser src (Outline src) := do
  match ← token with
  | .string value =>
    let start ← place
    advance
    return .node (.text value) start []
  | _ => anyWord

def importedName : Parser src (Outline src) :=
  withReader ({ · with inAsync := false, inGenerator := false }) (bindingName false)

/-- Checks that a name is bound by an import which gives it no other one. -/
def checkImported (name : Outline src) : Parser src Unit := do
  match name.form with
  | .name text => if isReservedShorthand text then refuse name.start
  | _ => refuse name.start

def importedAs (name : Outline src) : Parser src Unit := do
  if ← eatWord "as" then discard <| bindingName false else checkImported name

/-- Notes a fault for a second `type` in a list that has one in front. -/
def checkSecondType (typeOnly : Bool) (start : Nat) : Parser src Unit := do
  if typeOnly then report start

/-- One of the names between the braces of an import. `type` may be a name or not, and so may the
`as` behind it. -/
def importSpecifier (typeOnly : Bool) : Parser src Unit := do
  let first ← listedName
  unless (← read).typed ∧ first.name? = some "type" ∧ (← current).isWord do
    return ← importedAs first
  let second ← anyWord
  unless second.name? = some "as" do
    checkSecondType typeOnly first.start
    return ← importedAs second
  unless (← current).isWord do
    return ← checkSecondType typeOnly first.start
  let third ← bindingName false
  if third.name? = some "as" ∧ (← current).isWord then
    discard <| bindingName false
    checkSecondType typeOnly first.start

/-- One of the names between the braces of an export, read likewise. What is exported is answered.
-/
def exportSpecifier (typeOnly : Bool) : Parser src (Outline src) := do
  let exportedAs (name : Outline src) : Parser src (Outline src) := do
    if ← eatWord "as" then discard listedName
    return name
  let first ← listedName
  unless (← read).typed ∧ first.name? = some "type" ∧ (← current).isWord do
    return ← exportedAs first
  let second ← anyWord
  unless second.name? = some "as" do
    checkSecondType typeOnly first.start
    return ← exportedAs second
  unless (← current).isWord do
    checkSecondType typeOnly first.start
    return second
  let third ← anyWord
  unless third.name? = some "as" ∧ (← current).isWord do return first
  discard anyWord
  checkSecondType typeOnly first.start
  return second

def nameList {α : Type} (specifier : Parser src α) : Parser src (List α) := do
  expectMark "\x7b"
  let (found, _) ← commaItems "\x7d" specifier
  expectMark "\x7d"
  return found

def importEquals : Parser src (Outline src) := do
  expectMark "="
  if ← isWordBefore "require" (·.isMark "(") then
    advance
    advance
    moduleName
    expectMark ")"
  else
    discard anyWord
    dottedRest identifier
  semicolon
  return .empty

inductive ImportPhase where
  | evaluation
  | source
  | defer
  deriving DecidableEq, Repr

/-- What has been read of an import behind its first word. -/
structure ImportHead (src : Source) where
  typeOnly : Bool
  phase : ImportPhase
  /-- The default name, unless the word stands for something else. -/
  name : Option (Outline src)

def atList : Parser src Bool := do
  return (← isMark "\x7b") ∨ (← isMark "*")

/-- Whether a name follows that is not the `from` of an import. `from` may be the name. -/
def namesBeforeFrom : Parser src Bool := do
  unless ← atReference do return false
  unless ← isWord "from" do return true
  return (← peek).isKeyword "from"

def importType? (name : Outline src) : Parser src (ImportHead src) := do
  let head : ImportHead src := ⟨false, .evaluation, some name⟩
  unless (← read).typed ∧ name.name? = some "type" do return head
  if ← atList then return ⟨true, .evaluation, none⟩
  if ← namesBeforeFrom then return ⟨true, .evaluation, some (← importedName)⟩
  if ← isWordBefore "from" (·.isMark "=") then
    return ⟨true, .evaluation, some (← anyWord)⟩
  return head

def importPhase (head : ImportHead src) (name : Outline src) : Parser src (ImportHead src) := do
  let phase? : Option ImportPhase :=
    match name.name? with
    | some "source" => some .source
    | some "defer" => some .defer
    | _ => none
  match phase? with
  | none => return head
  | some phase =>
    if ← atList then return { head with phase, name := none }
    let isNamed := (← atReference) ∧ !(← isWord "from")
    unless isNamed do
      unless (← peek).isKeyword "from" do return head
    return { head with phase, name := some (← importedName) }

/-- The names of an import behind a default one, and where they come from. Only some phases have
them. -/
def importedNames (r : Rules src) (head : ImportHead src) : Parser src (Outline src) := do
  if head.phase ≠ .source ∧ (← isMark "*") then
    advance
    expectWord "as"
    discard importedName
  else if head.phase = .evaluation ∧ (← isMark "\x7b") then
    discard <| nameList (importSpecifier head.typeOnly)
  fromModule r

def namedImport (r : Rules src) : Parser src (Outline src) := do
  let head ← importType? (← importedName)
  match head.name with
  | none => importedNames r head
  | some name =>
    if (← read).typed ∧ (← isMark "=") then return ← importEquals
    let head ← importPhase head name
    if head.name.isSome then
      unless ← isWord "from" do expectMark ","
    importedNames r head

def importDeclaration (r : Rules src) : Parser src (Outline src) := do
  advance
  if (← token) matches .string _ then
    moduleName
    let attributes ← moduleAttributes r
    semicolon
    return .group attributes
  if ← atReference then namedImport r else importedNames r ⟨false, .evaluation, none⟩

/-- The names that an export without a source cannot have: reserved ones, strings, and what only a
module has. -/
def checkExported (name : Outline src) : Parser src Unit := do
  match name.form with
  | .name text => if isReservedExport text then report name.start
  | _ => report name.start

/-- Exported names, perhaps of another module, from behind the default one on. -/
def exportedNames (r : Rules src) (typeOnly : Bool) (default : Option (Outline src)) :
    Parser src (Outline src) := do
  let space : Option Nat ←
    match default with
    | none => if ← isMark "*" then pure (some (← place)) else pure none
    | some _ =>
      if ← isMarkBefore "," (·.isMark "*") then
        advance
        pure (some (← place))
      else pure none
  if space.isSome then
    advance
    expectWord "as"
    discard listedName
  if default.isSome ∨ space.isSome then
    if ← isWord "from" then return ← fromModule r
    if (← read).typed then fail (← place)
    expectMark ","
  let names ← nameList (exportSpecifier typeOnly)
  if ← isWord "from" then return ← fromModule r
  default.forM fun name => report name.start
  space.forM report
  names.forM checkExported
  discard eatSemicolon
  return .empty

/-- `export *`, names, or a default name from another module, which scripts with types do not have.
-/
def exportList (r : Rules src) (typeOnly : Bool) (default : Option (Outline src)) :
    Parser src (Outline src) := do
  let named := !(← read).typed && (← current).isWord
  let default ←
    match default with
    | some name => pure (some name)
    | none => if named then pure (some (← identifier)) else pure none
  if default.isNone then
    if ← isMarkBefore "*" (!·.isKeyword "as") then
      advance
      return ← fromModule r
  exportedNames r typeOnly default

/-- Whether `default` is the name of what another module exports. -/
def exportsDefaultOf : Parser src Bool := do
  if (← read).typed then return false
  if ← isWord "from" then return (← peek).token matches .string _
  isMarkBefore "," fun next => next.isMark "*" || next.isMark "\x7b"

/-- Decorators behind the words of an export. There are none in front of it then. -/
def innerDecorators (r : Rules src) (outer : List (Outline src)) :
    Parser src (List (Outline src)) := do
  unless ← isMark "@" do return outer
  let start ← place
  let found ← decorators r
  unless outer.isEmpty do refuse start
  return found

/-- A default export that only scripts with types have: an abstract class or an interface. -/
def typedDefault? (r : Rules src) (decorators : List (Outline src)) :
    Parser src (Option (Outline src)) := do
  unless (← read).typed do return none
  let start ← place
  if ← isWord "abstract" then
    let next ← peek
    if next.isKeyword "class" && !next.newline then
      advance
      return some (← classRest r decorators true false start)
    if next.isKeyword "interface" then
      report start
      advance
  unless ← eatWord "interface" do return none
  return some (← interfaceRest r start)

def exportDefault (r : Rules src) (decorators : List (Outline src)) (default : Nat) :
    Parser src (Outline src) := do
  let decorators ← innerDecorators r decorators
  if let some found ← typedDefault? r decorators then return found
  let start ← place
  if ← isWord "class" then return ← classRest r decorators false false start
  if ← atAsyncFunction then
    advance
    return ← functionDeclaration r true false decorators start
  if ← isWord "function" then
    return ← functionDeclaration r false false decorators start
  if ← exportsDefaultOf then
    return ← exportList r false (some (.node .group default []))
  let value ← allowingIn r.assignment
  semicolon
  return .group [value]

def typedExport? (r : Rules src) (decorators : List (Outline src)) :
    Parser src (Option (Outline src)) := do
  unless (← read).typed do return none
  let start ← place
  if ← eatWord "declare" then
    if let some found ← ambientDeclaration? r decorators start then return some found
  if let some found ← attempt (wordedDeclaration? r decorators (← place)) then return some found
  if ← eatWord "import" then
    if ← isWordBefore "type" Lexeme.isWord then advance
    discard anyWord
    return some (← importEquals)
  if ← eatMark "=" then
    let value ← r.expression
    semicolon
    return some (.group [value])
  if ← eatWord "as" then
    expectWord "namespace"
    discard identifier
    semicolon
    return some .empty
  return none

def exportedDeclaration? (r : Rules src) (decorators : List (Outline src)) :
    Parser src (Option (Outline src)) := do
  let start ← place
  if ← isWord "class" then return some (← classRest r decorators false true start)
  if ← atAsyncFunction then
    advance
    return some (← functionDeclaration r true true decorators start)
  if ← isWord "function" then
    return some (← functionDeclaration r false true decorators start)
  if (← read).typed then
    if let some found ← constEnum? r then return some found
  match ← variableKind? with
  | some kind => return some (← variableStatement r kind)
  | none => return none

def exportDeclaration (r : Rules src) (decorators : List (Outline src)) :
    Parser src (Outline src) := do
  advance
  if let some found ← typedExport? r decorators then return found
  let typed := (← read).typed
  let typeOnly ← if typed then eatWord "type" else pure false
  if !typeOnly ∧ (← isWord "default") then
    advance
    return ← exportDefault r decorators (← last).start
  let decorators ← innerDecorators r decorators
  if typeOnly then return ← exportList r true none
  match ← exportedDeclaration? r decorators with
  | some found => return found
  | none => exportList r false none

def item (r : Rules src) : Parser src (Outline src) := do
  let start ← place
  let decorators ← if ← isMark "@" then Parser.decorators r else pure []
  if let some found ← importExpression? r then return found
  if ← isWord "import" then return ← importDeclaration r
  if ← isWord "export" then return ← exportDeclaration r decorators
  apartFromColon (plainStatement r true decorators start)

end Phrasebook.Script.Parser
