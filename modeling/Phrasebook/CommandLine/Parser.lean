import Phrasebook.Command.Basic
import Phrasebook.CommandLine.Matching
import Phrasebook.Lint.Run

/-!
The command line of the program: a command and its arguments.
-/
namespace Phrasebook.CommandLine

def projectArguments : List Argument :=
  [.option "source-root" .path none,
    .option "separator" .text (some "NESTING_KEY"),
    .option "input" .path (some "INPUT_FILE"),
    .option "strings-dir" .path none,
    .flag "verbose" (some 'v')]

namespace Matches

def has (m : Matches) (name : String) : Bool :=
  (m.lookup name).isSome

def values (m : Matches) (name : String) : List String :=
  (m.lookup name).getD []

def value? (m : Matches) (name : String) : Option String :=
  (m.values name).head?

def value (m : Matches) (name : String) : String :=
  (m.value? name).getD ""

def projectOptions (m : Matches) : ProjectOptions where
  sourceRoot := m.value? "source-root"
  separator := m.value? "separator"
  input := m.value? "input"
  stringsDir := m.value? "strings-dir"
  verbose := m.has "verbose"

end Matches

structure CommandSpec where
  name : String
  arguments : List Argument
  ofMatches : Matches → Command

def CommandSpec.onProject (name : String) (arguments : List Argument)
    (task : Matches → ProjectTask) : CommandSpec :=
  ⟨name, arguments ++ projectArguments, fun m => .onProject m.projectOptions (task m)⟩

def generateSpec : CommandSpec :=
  .onProject "generate" [.positionals "paths" .text, .option "output" .path (some "OUTPUT_FILE")]
    fun m => .generate ⟨m.values "paths", m.value? "output"⟩

def rekeySpec : CommandSpec :=
  .onProject "rekey"
    [.requiredPositional "old", .requiredPositional "new", .flag "copy" none,
      .flag "allow-existing" none, .options "locale"]
    fun m => .rekey
      { oldKey := m.value "old"
        newKey := m.value "new"
        copy := m.has "copy"
        allowExisting := m.has "allow-existing"
        locales := m.values "locale" }

def pruneSpec : CommandSpec :=
  .onProject "prune" [.flag "dry-run" none, .options "locale"]
    fun m => .prune ⟨m.has "dry-run", m.values "locale"⟩

def lintSpec : CommandSpec :=
  .onProject "lint"
    [.positionals "rules" (.oneOf (Lint.rules.map Rule.name)),
      .option "hardcoded-words" .text (some "I18N_HARDCODED_WORDS"),
      .option "allowed-keys" .text (some "I18N_ALLOWED_HARDCODED_KEYS")]
    fun m => .lint
      { rules := (m.values "rules").filterMap Rule.ofName?
        hardcodedWords := m.value? "hardcoded-words"
        allowedKeys := m.value? "allowed-keys" }

def usageSpec : CommandSpec :=
  .onProject "usage" [.positional "key" .text, .options "path"]
    fun m => .usage ⟨m.value? "key", m.values "path"⟩

def sortSpec : CommandSpec :=
  .onProject "sort" [.positional "file" .path] fun m => .sort ⟨m.value? "file"⟩

def initSpec : CommandSpec :=
  ⟨"init", [], fun _ => .init⟩

def commands : List CommandSpec :=
  [generateSpec, rekeySpec, pruneSpec, lintSpec, usageSpec, sortSpec, initSpec]

def helpWord : String := "help"

def isCommandName (word : String) : Bool :=
  word = helpWord || commands.any (·.name = word)

def helpOn : List String → Stop
  | [] => .help
  | [word] => if isCommandName word then .help else .unknownCommand
  | _ => .unknownCommand

def stopAtShorts : List Char → Stop
  | 'h' :: _ => .help
  | 'V' :: _ => .version
  | _ => .unknownArgument

def stopAtLong (word : List Char) : Stop :=
  let (name, attached) := Matching.splitAttached word
  if name ∈ ["help", "version"] then
    if attached.isSome then .surplusValue else if name = "help" then .help else .version
  else .unknownArgument

/-- What becomes of a line that starts with two dashes. No command is named behind them. -/
def afterDashes : List String → Except Stop (Option Command)
  | [] => .ok none
  | word :: _ => .error (if isCommandName word then .unknownArgument else .unknownCommand)

/-- Reads the words of a command line. A line without words names no command. -/
def parse (environment : String → Option String) : List String → Except Stop (Option Command)
  | [] => .ok none
  | word :: words =>
    match commands.find? (·.name = word) with
    | some spec => (assign spec.arguments environment words).map fun m => some (spec.ofMatches m)
    | none =>
      if word = helpWord then .error (helpOn words)
      else
        match word.toList with
        | ['-', '-'] => afterDashes words
        | '-' :: '-' :: name => .error (stopAtLong name)
        | '-' :: c :: cs => .error (stopAtShorts (c :: cs))
        | _ => .error .unknownCommand

def overview : String :=
  "\n".intercalate
    ["Keeps i18n translation key trees in sync with the source code that uses them",
      "",
      "Usage: lockey [COMMAND]",
      "",
      "Commands:",
      "  generate  Rebuild the canonical translation file from the keys used in source code",
      "  rekey     Move or copy a translation key in the canonical file and every locale",
      "  prune     Remove locale translations whose keys are gone from the canonical file",
      "  lint      Check the canonical file for malformed keys and placeholder values",
      "  usage     Show which source files use a key, or how often every key is used",
      "  sort      Sort the keys of a translation file alphabetically",
      "  init      Initialize a new .lockeyrc.json configuration file",
      "  help      Print this message or the help of the given subcommand(s)",
      "",
      "Options:",
      "  -h, --help     Print help",
      "  -V, --version  Print version",
      ""]

def version : String := "lockey 0.1.0\n"

end Phrasebook.CommandLine
