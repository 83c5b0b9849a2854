import Phrasebook.Config.Basic
import Phrasebook.Json.Parser
import Phrasebook.Json.Skip
import Phrasebook.Text.Listing
import Phrasebook.Text.Quoted

/-!
Reading settings from JSON. The settings may be given by name or as an array in order, unknown names
are passed over, and settings that are not given have their defaults.
-/
namespace Phrasebook.Config

open Json (Fault Reading Value skipBlanks)

def describe : Value → String
  | .null => "null"
  | .bool b => s!"boolean \x60{b}\x60"
  | .number (.float f) => s!"floating point \x60{Decimal.ofFloat f}\x60"
  | .number n => s!"integer \x60{n.text}\x60"
  | .string s => s!"string {Text.quoted s}"
  | .array _ => "sequence"
  | .object _ => "map"

/-- The fault of a value of the wrong type. A scalar is read to the end first. -/
def mismatch (expected : String) (s : List Char) : Fault :=
  let wrong (found : String) (rest : List Char) : Fault :=
    .behind (.other s!"invalid type: {found}, expected {expected}") rest
  match s with
  | [] => .ahead .eofValue []
  | '[' :: _ => wrong "sequence" s
  | '{' :: _ => wrong "map" s
  | _ =>
    match Json.readValue 1 Json.depthLimit s with
    | .error fault => fault
    | .ok (value, rest) => wrong (describe value) rest

def readText (s : List Char) : Reading String :=
  match skipBlanks s with
  | '"' :: s => Json.readString s
  | s => .error (mismatch "a string" s)

def readOptionalText (s : List Char) : Reading (Option String) :=
  match skipBlanks s with
  | 'n' :: s => (Json.readWord .null "ull".toList s).map fun (_, s) => (none, s)
  | s => (readText s).map fun (text, s) => (some text, s)

def readItems : (fuel : Nat) → (first : Bool) → (read : List String) → List Char →
    Reading (List String)
  | 0, _, _, s => .error (.ahead .eofArray s)
  | fuel + 1, first, read, s =>
    match Json.nextItem first s with
    | .error fault => .error fault
    | .ok (false, s) => .ok (read.reverse, s)
    | .ok (true, s) =>
      match readText s with
      | .error fault => .error fault
      | .ok (text, s) => readItems fuel false (text :: read) s

def readTexts (s : List Char) : Reading (List String) :=
  match skipBlanks s with
  | '[' :: s => readItems (s.length + 1) true [] s
  | s => .error (mismatch "a sequence" s)

def listOf? : Value → Option (List String)
  | .array items => items.mapM Value.string?
  | .string text => some (Text.listed text)
  | _ => none

/-- Where the settings stand, which decides on where some faults are reported: behind the next
closing mark. -/
inductive Form where
  | named
  | ordered
  deriving DecidableEq, Repr

/-- The text behind what ends a setting, as far as it is looked at when the setting is given up. -/
def Form.settle (form : Form) (s : List Char) : List Char :=
  match form, skipBlanks s with
  | .named, '}' :: s => s
  | .ordered, ']' :: s => s
  | .ordered, ',' :: s => skipBlanks s
  | _, s => s

def readList (form : Form) (s : List Char) : Reading (List String) :=
  match Json.readValue (Json.stepBound s) (Json.depthLimit - 1) s with
  | .error fault => .error fault
  | .ok (value, s) =>
    match listOf? value with
    | some items => .ok (items, s)
    | none =>
      let message := "data did not match any variant of untagged enum ListOrString"
      .error (.behind (.other message) (form.settle s))

def fieldNames : List String :=
  ["nestingSeparator", "inputFile", "outputFile", "stringsDir", "baseFiles",
    "extraTranslationFuncs", "searchPaths", "ignores", "hardcodedWords", "allowedHardcodedKeys"]

def readField (form : Form) (name : String) (c : Config) (s : List Char) : Reading Config :=
  match name with
  | "nestingSeparator" => (readText s).map fun (v, s) => ({ c with nestingSeparator := v }, s)
  | "inputFile" => (readText s).map fun (v, s) => ({ c with inputFile := v }, s)
  | "outputFile" => (readOptionalText s).map fun (v, s) => ({ c with outputFile := v }, s)
  | "stringsDir" => (readOptionalText s).map fun (v, s) => ({ c with stringsDir := v }, s)
  | "baseFiles" => (readTexts s).map fun (v, s) => ({ c with baseFiles := v }, s)
  | "extraTranslationFuncs" =>
    (readTexts s).map fun (v, s) => ({ c with extraFunctions := v }, s)
  | "searchPaths" => (readTexts s).map fun (v, s) => ({ c with searchPaths := v }, s)
  | "ignores" => (readTexts s).map fun (v, s) => ({ c with ignores := v }, s)
  | "hardcodedWords" => (readList form s).map fun (v, s) => ({ c with hardcodedWords := v }, s)
  | "allowedHardcodedKeys" =>
    (readList form s).map fun (v, s) => ({ c with allowedHardcodedKeys := v }, s)
  | _ => (Json.skipValue (Json.stepBound s) s).map fun s => (c, s)

/-- Reads settings by name. No setting is given twice. -/
def readNamed : (fuel : Nat) → (first : Bool) → (seen : List String) → Config → List Char →
    Reading Config
  | 0, _, _, _, s => .error (.ahead .eofObject s)
  | fuel + 1, first, seen, c, s =>
    match Json.nextKey first s with
    | .error fault => .error fault
    | .ok (none, s) => .ok (c, s)
    | .ok (some name, s) =>
      if name ∈ fieldNames ∧ name ∈ seen then
        .error (.behind (.other s!"duplicate field \x60{name}\x60") (Form.named.settle s))
      else
        match Json.readColon s with
        | .error fault => .error fault
        | .ok (_, s) =>
          match readField .named name c s with
          | .error fault => .error fault
          | .ok (c, s) => readNamed fuel false (name :: seen) c s

def closeOrdered (c : Config) (s : List Char) : Reading Config :=
  match skipBlanks s with
  | [] => .error (.ahead .eofArray [])
  | ']' :: s => .ok (c, s)
  | ',' :: s =>
    match skipBlanks s with
    | ']' :: s => .error (.ahead .trailingComma (']' :: s))
    | s => .error (.ahead .trailingCharacters s)
  | s => .error (.ahead .trailingCharacters s)

def readOrdered : (names : List String) → (first : Bool) → Config → List Char → Reading Config
  | [], _, c, s => closeOrdered c s
  | name :: names, first, c, s =>
    match Json.nextItem first s with
    | .error fault => .error fault
    | .ok (false, s) => .ok (c, s)
    | .ok (true, s) =>
      match readField .ordered name c s with
      | .error fault => .error fault
      | .ok (c, s) => readOrdered names false c s

def parse (content : List Char) : Except Fault Config := do
  let (c, rest) ←
    match skipBlanks content with
    | '{' :: s => readNamed (s.length + 1) true [] default s
    | '[' :: s => readOrdered fieldNames true default s
    | s => .error (mismatch "struct Config" s)
  Json.finish rest
  return c

end Phrasebook.Config
