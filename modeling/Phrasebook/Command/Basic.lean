import Phrasebook.Issue

/-!
Commands with their options.
-/
namespace Phrasebook

/-- The options of every command that works on a project. They take precedence over the settings. -/
structure ProjectOptions where
  sourceRoot : Option String
  separator : Option String
  input : Option String
  stringsDir : Option String
  verbose : Bool
  deriving DecidableEq, Repr

structure GenerateOptions where
  paths : List String
  output : Option String
  deriving DecidableEq, Repr

structure RekeyOptions where
  oldKey : String
  newKey : String
  copy : Bool
  allowExisting : Bool
  locales : List String
  deriving DecidableEq, Repr

structure PruneOptions where
  dryRun : Bool
  locales : List String
  deriving DecidableEq, Repr

structure LintOptions where
  rules : List Rule
  hardcodedWords : Option String
  allowedKeys : Option String
  deriving DecidableEq, Repr

structure UsageOptions where
  key : Option String
  paths : List String
  deriving DecidableEq, Repr

structure SortOptions where
  file : Option String
  deriving DecidableEq, Repr

inductive ProjectTask where
  | generate (options : GenerateOptions)
  | rekey (options : RekeyOptions)
  | prune (options : PruneOptions)
  | lint (options : LintOptions)
  | usage (options : UsageOptions)
  | sort (options : SortOptions)
  deriving DecidableEq, Repr

inductive Command where
  | onProject (project : ProjectOptions) (task : ProjectTask)
  /-- Writes a configuration file into the current directory. -/
  | init
  deriving DecidableEq, Repr

def Command.verbose : Command → Bool
  | .onProject project _ => project.verbose
  | .init => false

end Phrasebook
