import Phrasebook.Script.Objects

/-!
Types. Their outlines hold the expressions written in them: keys, default values and attributes.
-/
namespace Phrasebook.Script.Parser

variable {src : Source}

/-- Whether the parameters of a function type start at the current parenthesis. -/
def startsFunctionType (r : Rules src) : Parser src Bool := do
  if ← isMark "<" then return true
  unless ← isMark "(" do return false
  ahead do
    advance
    if (← isMark ")") ∨ (← isMark "...") then return true
    discard parameterModifier
    if (← current).isWord then advance
    else if (← isMark "\x7b") ∨ (← isMark "[") then discard <| r.binding false
    else return false
    if ← isMarkIn [":", ",", "?", "="] then return true
    return (← eatMark ")") ∧ (← isMark "=>")

def signatureParameters (r : Rules src) : Parser src (List (Outline src)) := do
  expectMark "("
  let found := (← functionParameters r).map (·.pattern)
  let fits (pattern : Outline src) : Bool :=
    match pattern.form with
    | .name _ | .arrayPattern | .objectPattern | .rest => true
    | _ => false
  unless found.all fits do unexpected
  expectMark ")"
  return found

def functionType (r : Rules src) : Parser src (Outline src) := do
  let typeParameters ← optionalTypeParameters r false true
  let parameters ← signatureParameters r
  unless ← isMark "=>" do fail (← place)
  let result ← returnType r
  return .group (parameters ++ typeParameters ++ [result])

/-- Dotted names from behind the first one on. What stands behind a dot and is no name is a harmless
fault. -/
def dottedRest (name : Parser src (Outline src)) : Parser src Unit := do
  discard <| iterate (fun () => do
    unless ← eatMark "." do return none
    let lexeme ← current
    unless lexeme.isWord || lexeme.isMark "#" do
      report lexeme.start
      return none
    discard name
    return some ()) ()

def dottedName : Parser src Unit := do
  discard anyWord
  dottedRest anyWord

def closeTypeArguments (r : Rules src) : Parser src (List (Outline src)) := do
  if (← isMark "<") ∧ !(← onNewLine) then return [← typeArguments r] else return []

def typeReference (r : Rules src) : Parser src (Outline src) := do
  let start ← place
  let modified ← parameterModifier
  dottedName
  let types ← closeTypeArguments r
  if modified then report start
  return .node .group start types

def importOptions (r : Rules src) : Parser src (List (Outline src)) := do
  unless (← eatMark ",") ∧ (← isMark "\x7b") do return []
  advance
  expectWord "with"
  expectMark ":"
  unless ← isMark "\x7b" do unexpected
  let options ← objectLiteral r
  discard <| eatMark ","
  expectMark "\x7d"
  return [options]

/-- `import("module")` in a type. A name that is no string is a harmless fault. -/
def importType (r : Rules src) : Parser src (Outline src) := do
  let start ← place
  expectWord "import"
  expectMark "("
  let isString := (← token) matches .string _
  let name ← place
  advance
  unless isString do report name
  let options ← importOptions r
  expectMark ")"
  if ← eatMark "." then
    discard anyWord
    dottedRest identifier
  let types ← if ← isMark "<" then pure [← typeArguments r] else pure []
  return .node .group start (types ++ options)

def typeQuery (r : Rules src) : Parser src (Outline src) := do
  let start ← place
  expectWord "typeof"
  let asked ← if ← isWord "import" then pure [← importType r] else do
    dottedName
    pure []
  return .node .group start (asked ++ (← closeTypeArguments r))

def thisPredicate (r : Rules src) (start : Nat) : Parser src (Outline src) := do
  if ← eatWord "is" then return .node .group start [← r.anyType]
  return .node .group start []

def wordTypes : List String :=
  ["any", "bigint", "boolean", "intrinsic", "never", "null", "number", "object", "string", "symbol",
    "undefined", "unknown", "void"]

def wordType (r : Rules src) (word : String) : Parser src (Outline src) := do
  let start ← place
  match word with
  | "import" => importType r
  | "typeof" => typeQuery r
  | "this" =>
    advance
    if ← onNewLine then return .node .group start [] else thisPredicate r start
  | "true" => anyWord
  | "false" => anyWord
  | _ =>
    if word ∈ keywords ++ ["let"] ∧ word ∉ ["void", "null", "break"] then unexpected
    let next ← peek
    if word = "asserts" ∧ next.isKeyword "this" then
      advance
      advance
      return ← thisPredicate r start
    if word ∈ wordTypes ∧ !next.isMark "." then
      advance
      return .node .group start []
    typeReference r

def memberEnd : Parser src Unit := do
  unless ← eatMark "," do semicolon

/-- `[key: T]: U` from its bracket on. A comma behind the key is a harmless fault. -/
def indexSignature? (r : Rules src) : Parser src (Option (Outline src)) := do
  unless ← isMark "[" do return none
  let found ← ahead do
    advance
    unless (← current).isWord do return false
    advance
    isMarkIn [":", ","]
  unless found do return none
  advance
  let start ← place
  advance
  if ← isMark "," then report start
  let index ← typeBehind r
  expectMark "]"
  let types ← optionalType r
  memberEnd
  return some (.group (index :: types))

def signatureKey (r : Rules src) : Parser src (Outline src) := do
  match ← token with
  | .mark "[" =>
    advance
    let key ← r.assignment
    expectMark "]"
    return key
  | .string _ => r.construction
  | .number => r.construction
  | .mark "#" =>
    let start ← place
    discard privateName
    report start
    return .empty
  | _ =>
    discard anyWord
    return .empty

def signatureRest (r : Rules src) (key : List (Outline src)) : Parser src (Outline src) := do
  let typeParameters ← optionalTypeParameters r false true
  let parameters ← signatureParameters r
  let result ← if ← isMark ":" then pure [← returnType r] else pure []
  memberEnd
  return .group (key ++ parameters ++ result ++ typeParameters)

def accessorSignature? (r : Rules src) (isReadonly : Bool) : Parser src (Option (Outline src)) := do
  unless (← isWord "get") ∨ (← isWord "set") do return none
  attempt do
    if isReadonly then unexpected
    let isGetter ← isWord "get"
    advance
    let key ← signatureKey r
    if isGetter then
      expectMark "("
      expectMark ")"
      let types ← optionalType r
      memberEnd
      return some (.group (key :: types))
    let parameters ← signatureParameters r
    if parameters.isEmpty then unexpected
    memberEnd
    return some (.group (key :: parameters.take 1))

def propertySignature (r : Rules src) (isReadonly : Bool) : Parser src (Outline src) := do
  let key ← signatureKey r
  discard <| eatMark "?"
  if (← isMark "(") ∨ (← isMark "<") then
    if isReadonly then unexpected
    return ← signatureRest r [key]
  let types ← optionalType r
  memberEnd
  return .group (key :: types)

def typeMember (r : Rules src) : Parser src (Outline src) := do
  if (← isMark "(") ∨ (← isMark "<") then return ← signatureRest r []
  if ← isWord "new" then
    let next ← peek
    if next.isMark "(" || next.isMark "<" then
      advance
      return ← signatureRest r []
  let isReadonly := (← modifier? ["readonly"]).isSome
  if let some found ← indexSignature? r then return found
  if let some found ← accessorSignature? r isReadonly then return found
  propertySignature r isReadonly

def objectType (r : Rules src) : Parser src (Outline src) := do
  let start ← place
  expectMark "\x7b"
  let members ← collect do
    if ← isMark "\x7d" then return none
    return some (← typeMember r)
  expectMark "\x7d"
  return .node .group start members

def eatSign : Parser src Bool := do
  if ← eatMark "+" then return true
  eatMark "-"

def startsMappedType : Parser src Bool := ahead do
  advance
  if ← eatSign then return ← isWord "readonly"
  discard <| eatWord "readonly"
  unless (← eatMark "[") ∧ (← atReference) do return false
  advance
  isWord "in"

def typeBehindWord (r : Rules src) (word : String) : Parser src (Outline src) := do
  unless ← isWord word do fail (← place)
  typeBehind r

def mappedType (r : Rules src) : Parser src (Outline src) := do
  let start ← place
  expectMark "\x7b"
  if ← eatSign then expectWord "readonly" else discard <| eatWord "readonly"
  expectMark "["
  let _ ← anyWord
  let keys ← typeBehindWord r "in"
  let name ← if ← isWord "as" then pure [← typeBehind r] else pure []
  expectMark "]"
  if ← eatSign then expectMark "?" else discard <| eatMark "?"
  let types ← optionalType r
  semicolon
  expectMark "\x7d"
  return .node .group start (keys :: name ++ types)

def tupleLabel? : Parser src (Option Unit) := attempt do
  discard <| eatMark "..."
  let _ ← anyWord
  discard <| eatMark "?"
  expectMark ":"
  return some ()

inductive TupleElementKind where
  | required
  | optional
  | rest
  deriving DecidableEq, Repr

def tupleElement (r : Rules src) : Parser src (TupleElementKind × Outline src) := do
  let _ ← tupleLabel?
  if ← eatMark "..." then return (.rest, ← r.anyType)
  let type ← r.anyType
  if ← eatMark "?" then return (.optional, type)
  return (.required, type)

/-- A tuple type. No required element stands behind an optional one. -/
def tupleType (r : Rules src) : Parser src (Outline src) := do
  let start ← place
  expectMark "["
  let found ← typeList (isMark "]") (tupleElement r)
  expectMark "]"
  let later := found.dropWhile (·.1 ≠ .optional)
  if later.any (·.1 = .required) then refuse start
  return .node .group start (found.map (·.2))

def parenthesizedType (r : Rules src) : Parser src (Outline src) := do
  expectMark "("
  let type ← r.anyType
  expectMark ")"
  return type

def negativeType : Parser src (Outline src) := do
  let start ← place
  expectMark "-"
  match ← token with
  | .number => advance
  | .bigint => advance
  | _ => unexpected
  return .node .group start []

def literalType : Parser src (Outline src) := do
  let start ← place
  advance
  return .node .group start []

def primaryType (r : Rules src) : Parser src (Outline src) := do
  match ← token with
  | .word text false => wordType r text
  | .word _ true => typeReference r
  | .string _ => literalType
  | .number => literalType
  | .bigint => literalType
  | .mark "\x60" => template r.anyType false
  | .mark "-" => negativeType
  | .mark "\x7b" => if ← startsMappedType then mappedType r else objectType r
  | .mark "[" => tupleType r
  | .mark "(" => parenthesizedType r
  | _ => unexpected

def postfixType (r : Rules src) : Parser src (Outline src) := do
  let start ← place
  let first ← primaryType r
  let indices ← collect do
    if ← onNewLine then return none
    unless ← eatMark "[" do return none
    if ← eatMark "]" then return some Outline.empty
    let index ← r.anyType
    expectMark "]"
    return some index
  return .node .group start (first :: indices)

/-- The bound of an inferred type, unless it turns out to be the condition around it. -/
def inferBound? (r : Rules src) : Parser src (Option (Outline src)) := do
  unless ← isWord "extends" do return none
  attempt do
    advance
    let bound ← r.plainType
    if (← read).noConditional ∨ !(← isMark "?") then return some bound else return none

def operatorType (r : Rules src) : Parser src (Outline src) := do
  discard <| iterate (fun () => do
    if (← eatWord "keyof") ∨ (← eatWord "unique") ∨ (← eatWord "readonly") then return some ()
    return none) ()
  unless ← eatWord "infer" do return ← postfixType r
  let name ← anyWord
  return .node .group name.start (← inferBound? r).toList

def joinedTypes (mark : String) (part : Parser src (Outline src)) : Parser src (Outline src) := do
  let start ← place
  discard <| eatMark mark
  let first ← part
  let more ← collect do
    unless ← eatMark mark do return none
    return some (← part)
  return .node .group start (first :: more)

def plainType (r : Rules src) : Parser src (Outline src) := do
  if ← startsFunctionType r then return ← functionType r
  if ← isWordBefore "abstract" (·.isKeyword "new") then
    advance
    advance
    return ← functionType r
  if ← eatWord "new" then return ← functionType r
  joinedTypes "|" <| joinedTypes "&" <| operatorType r

def anyType (r : Rules src) :
    Parser src (Outline src) := withReader ({ · with noConditional := false }) do
  let checked ← plainType r
  if ← onNewLine then return checked
  unless ← eatWord "extends" do return checked
  let bound ← withReader ({ · with noConditional := true }) (plainType r)
  expectMark "?"
  let yes ← r.anyType
  expectMark ":"
  let no ← r.anyType
  return .node .group checked.start [checked, bound, yes, no]

end Phrasebook.Script.Parser
