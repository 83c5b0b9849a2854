import Phrasebook.Config.Basic
import Phrasebook.Files
import Phrasebook.KeyTable
import Phrasebook.Rekey
import Phrasebook.Text.Quoted
import Phrasebook.PhraseFile

/-!
Why commands fail.
-/
namespace Phrasebook

inductive LoadError where
  | unreadable (path : String) (cause : FileError)
  | invalid (error : InvalidFile)
  deriving DecidableEq, Repr

def LoadError.message : LoadError → String
  | .unreadable path cause => s!"failed to read {path}: {cause.message}"
  | .invalid error => error.message

def LoadError.isMissing : LoadError → Bool
  | .unreadable _ .notFound => true
  | _ => false

inductive Content where
  | phrases
  | sortedPhrases
  | settings
  deriving DecidableEq, Repr

inductive CommandError where
  | invalidRoot (path : String) (cause : FileError)
  | unreadableConfig (path : String) (cause : FileError)
  | malformedConfig (path reason : String)
  | invalidConfig (error : ConfigError)
  | configExists
  | load (error : LoadError)
  | loadCanonical (error : LoadError)
  | loadLocale (error : LoadError)
  | unlistedStrings (path : String) (cause : FileError)
  | unreadableSource (path cause : String)
  | unplaced (error : Unplaced)
  | rekey (error : RekeyError)
  | unwritten (content : Content) (path : String) (cause : FileError)
  deriving DecidableEq, Repr

def RekeyError.fullMessage (e : RekeyError) : String :=
  match e.cause? with
  | some cause => s!"{e.message}: {cause.message}"
  | none => e.message

def CommandError.message : CommandError → String
  | .invalidRoot path cause => s!"Invalid path: {Text.quoted path}: {cause.message}"
  | .unreadableConfig path cause =>
    s!"Failed to read config file: {Text.quoted path}: {cause.message}"
  | .malformedConfig path reason => s!"Failed to parse config file: {Text.quoted path}: {reason}"
  | .invalidConfig error => error.message
  | .configExists => s!"{Config.fileName} already exists"
  | .load error => error.message
  | .loadCanonical error => s!"Failed to load the canonical translation file: {error.message}"
  | .loadLocale error => s!"Failed to load a locale file: {error.message}"
  | .unlistedStrings path cause =>
    s!"Failed to read strings directory: {Text.quoted path}: {cause.message}"
  | .unreadableSource path cause => s!"failed to read {path}: {cause}"
  | .unplaced error => s!"{error.message}: {error.cause.message}"
  | .rekey error => error.fullMessage
  | .unwritten .phrases path cause => s!"failed to write {path}: {cause.message}"
  | .unwritten .sortedPhrases path cause => s!"Failed to write {path}: {cause.message}"
  | .unwritten .settings _ cause => cause.message

end Phrasebook
