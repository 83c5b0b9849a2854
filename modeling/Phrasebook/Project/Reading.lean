import Phrasebook.Command.Plan
import Phrasebook.Language
import Phrasebook.Project
import Phrasebook.SourceScan

/-!
Reading the files of a project.
-/
namespace Phrasebook

variable {m : Type → Type} [Monad m] [Files m]

def PhraseFile.load (path : String) : m (Except LoadError PhraseFile) := do
  match ← Files.readText path with
  | .error cause => return .error (.unreadable path cause)
  | .ok text => return (PhraseFile.parse path text).mapError LoadError.invalid

namespace Project

def loadFile (wrap : LoadError → CommandError) (path : String) : Attempt m PhraseFile := do
  match ← ExceptT.lift (PhraseFile.load path) with
  | .ok file => return file
  | .error e => throw (wrap e)

/-- The tree of the canonical file, which is empty before it is first written. -/
def loadOldTree (p : Project) : Attempt m Tree := do
  match ← ExceptT.lift (PhraseFile.load p.inputFile) with
  | .ok file => return file.tree
  | .error e => if e.isMissing then return .nil else throw (.loadCanonical e)

def phraseExtension : String := "json"

def isPhraseFile (path : String) : m Bool := do
  if FilePath.extension? path = some phraseExtension then Files.isFile path else return false

def phraseFiles (directory : String) : Attempt m (List String) := do
  match ← ExceptT.lift (Files.list directory) with
  | .error cause => throw (.unlistedStrings directory cause)
  | .ok siblings =>
    let names := siblings.map Prod.fst
    let paths := (names.mergeSort (· ≤ ·)).map (FilePath.join directory)
    ExceptT.lift (paths.filterM isPhraseFile)

def isInputFile (p : Project) (path : String) : m Bool := do
  match ← Files.canonical path, ← Files.canonical p.inputFile with
  | .ok a, .ok b => return a = b
  | _, _ => return FilePath.components path = FilePath.components p.inputFile

/-- Whether a file holds one of the wanted locales. Where none is named, all are wanted. -/
def isLocale (wanted : List String) (path : String) : Bool :=
  wanted.isEmpty || (FilePath.fileStem? path).any (Language.isSelected wanted)

def localeFiles (p : Project) (wanted : List String) : Attempt m (List String) := do
  let paths ← phraseFiles p.stringsDir
  let locales ← ExceptT.lift (paths.filterM fun path => return !(← p.isInputFile path))
  return locales.filter (isLocale wanted)

def loadLocales (paths : List String) : Attempt m (List PhraseFile) :=
  paths.mapM (loadFile .loadLocale)

def scan (p : Project) (color : Bool) (searchPaths : List String) : Attempt m Scan := do
  match p.config.patterns with
  | .error e => throw (.invalidConfig e)
  | .ok patterns =>
    let functions := functionNames p.config.extraFunctions
    ExceptT.lift (SourceScan.run color p.verbose functions patterns searchPaths)

end Project

def ParseFailure.issue (e : ParseFailure) : Issue :=
  .parseError e.file (some e.line) e.reason

end Phrasebook
