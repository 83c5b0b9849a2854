import Phrasebook.Assoc

/-!
The arguments that commands take, and why a command line may run no command.
-/
namespace Phrasebook.CommandLine

inductive Stop where
  | help
  | version
  | unknownCommand
  | unknownArgument
  | missingArgument
  /-- A value is missing or not among the allowed ones. -/
  | invalidValue
  /-- A flag has a value. -/
  | surplusValue
  /-- An argument that stands once at most is repeated. -/
  | repeated
  deriving DecidableEq, Repr

namespace Stop

/-- Asking for help or for the version is no failure. -/
def exitCode : Stop → Nat
  | .help => 0
  | .version => 0
  | _ => 2

def message : Stop → String
  | .help => ""
  | .version => ""
  | .unknownCommand => "unrecognized subcommand"
  | .unknownArgument => "unexpected argument"
  | .missingArgument => "a required argument was not provided"
  | .invalidValue => "a value is missing or invalid"
  | .surplusValue => "a flag takes no value"
  | .repeated => "an argument cannot be used multiple times"

end Stop

inductive ValueKind where
  | text
  /-- A text that is not empty. -/
  | path
  | oneOf (names : List String)
  deriving DecidableEq, Repr

def ValueKind.accepts : ValueKind → String → Bool
  | .text, _ => true
  | .path, value => !value.isEmpty
  | .oneOf names, value => value ∈ names

/-- How an argument is written: `--name`, perhaps with a short form, `--name value`, or a value
alone. -/
inductive Form where
  | flag (short : Option Char)
  | option
  | positional
  deriving DecidableEq, Repr

structure Argument where
  name : String
  form : Form
  values : ValueKind
  repeats : Bool
  required : Bool
  /-- The environment variable that stands in for the argument. -/
  environment : Option String
  deriving DecidableEq, Repr

namespace Argument

def flag (name : String) (short : Option Char) : Argument :=
  ⟨name, .flag short, .text, false, false, none⟩

def option (name : String) (values : ValueKind) (environment : Option String) : Argument :=
  ⟨name, .option, values, false, false, environment⟩

def options (name : String) : Argument :=
  ⟨name, .option, .text, true, false, none⟩

def positional (name : String) (values : ValueKind) : Argument :=
  ⟨name, .positional, values, false, false, none⟩

def requiredPositional (name : String) : Argument :=
  ⟨name, .positional, .text, false, true, none⟩

def positionals (name : String) (values : ValueKind) : Argument :=
  ⟨name, .positional, values, true, false, none⟩

def isPositional (a : Argument) : Bool :=
  a.form = .positional

def hasShort (a : Argument) (c : Char) : Bool :=
  a.form = .flag (some c)

end Argument
end Phrasebook.CommandLine
