import Phrasebook.Glob
import Phrasebook.Json.Printer
import Phrasebook.KeyPath

/-!
The settings of a project.
-/
namespace Phrasebook

structure Config where
  nestingSeparator : String
  inputFile : String
  outputFile : Option String
  stringsDir : Option String
  baseFiles : List String
  extraFunctions : List String
  searchPaths : List String
  ignores : List String
  hardcodedWords : List String
  allowedHardcodedKeys : List String
  deriving DecidableEq, Repr

inductive ConfigError where
  | emptySeparator
  | invalidPattern (pattern : String) (fault : Glob.Fault)
  deriving DecidableEq, Repr

def ConfigError.message : ConfigError → String
  | .emptySeparator => "'nestingSeparator' must not be empty"
  | .invalidPattern pattern fault =>
    s!"Invalid glob pattern in 'ignores': \"{pattern}\": {fault.message}"

namespace Config

def fileName : String := ".lockeyrc.json"

def default : Config where
  nestingSeparator := KeyPath.defaultSeparator
  inputFile := "src/i18n/strings/en_EN.json"
  outputFile := none
  stringsDir := none
  baseFiles := ["basefile.json"]
  extraFunctions := []
  searchPaths := ["src", "res"]
  ignores := ["**/node_modules/**"]
  hardcodedWords := []
  allowedHardcodedKeys := []

/-- The patterns of the paths to leave out, or the first that is none. -/
def patterns (c : Config) : Except ConfigError (List (List Glob.Token)) :=
  c.ignores.mapM fun pattern =>
    match Glob.parse pattern with
    | .ok tokens => .ok tokens
    | .error fault => .error (.invalidPattern pattern fault)

/-- The separator may not be empty, and the patterns have to be well formed. -/
def validate (c : Config) : Except ConfigError Unit :=
  if c.nestingSeparator.isEmpty then .error .emptySeparator else c.patterns.map fun _ => ()

/-- The settings as they are written, in order. Those without a value are left out. -/
def toJson (c : Config) : Json.Value :=
  let optional (name : String) (value : Option String) : List (String × Json.Value) :=
    (value.map fun s => (name, .string s)).toList
  .object <|
    [("nestingSeparator", .string c.nestingSeparator), ("inputFile", .string c.inputFile)] ++
      optional "outputFile" c.outputFile ++
      optional "stringsDir" c.stringsDir ++
      [("baseFiles", .ofStrings c.baseFiles),
        ("extraTranslationFuncs", .ofStrings c.extraFunctions),
        ("searchPaths", .ofStrings c.searchPaths),
        ("ignores", .ofStrings c.ignores),
        ("hardcodedWords", .ofStrings c.hardcodedWords),
        ("allowedHardcodedKeys", .ofStrings c.allowedHardcodedKeys)]

def defaultText : String :=
  default.toJson.print (.indented 2)

end Config
end Phrasebook
