import Phrasebook.Command.Basic
import Phrasebook.Command.Plan
import Phrasebook.Config.Reader
import Phrasebook.Project

/-!
Opening a project: its settings are looked for in the source root and in the directories around it,
up to the top of a repository.
-/
namespace Phrasebook.Project

def repositoryMark : String := ".git"

variable {m : Type → Type} [Monad m] [Files m]

/-- The configuration file in the innermost of the directories that has one. -/
def configFile? : List String → m (Option String)
  | [] => return none
  | directory :: outer => do
    let path := FilePath.join directory Config.fileName
    if ← Files.present path then return some path
    if ← Files.present (FilePath.join directory repositoryMark) then return none
    configFile? outer

/-- Settings are checked before they are used. -/
def checkConfig (config : Config) : Attempt m Unit :=
  match config.validate with
  | .ok () => return ()
  | .error e => throw (.invalidConfig e)

def readConfig (path : String) : Attempt m Config := do
  match ← ExceptT.lift (Files.readText path) with
  | .error cause => throw (.unreadableConfig path cause)
  | .ok text =>
    match Config.parse text.toList with
    | .error fault => throw (.malformedConfig path (fault.message text.toList))
    | .ok config =>
      checkConfig config
      return config

def loadConfig (root : String) (verbose : Bool) : Attempt m Config := do
  match ← ExceptT.lift (Files.canonical root) with
  | .error cause => throw (.invalidRoot root cause)
  | .ok place =>
    match ← ExceptT.lift (configFile? (FilePath.ancestors place)) with
    | some path => readConfig path
    | none =>
      if verbose then
        let name := Config.fileName
        ExceptT.lift (Files.remark s!"Note: No {name} found, using default configuration")
      return .default

def applyOptions (options : ProjectOptions) (config : Config) : Config :=
  { config with
    nestingSeparator := options.separator.getD config.nestingSeparator
    inputFile := options.input.getD config.inputFile
    stringsDir := options.stringsDir.or config.stringsDir }

/-- Opens the project that the options name, by default that of the current directory. -/
def load (options : ProjectOptions) : Attempt m Project := do
  let root := options.sourceRoot.getD "."
  let config := applyOptions options (← loadConfig root options.verbose)
  checkConfig config
  return ⟨config, root, options.verbose⟩

end Phrasebook.Project
