import Phrasebook.Config.Basic
import Phrasebook.FilePath

/-!
The paths of a project: configured paths are seen from the root of the project.
-/
namespace Phrasebook

structure Project where
  config : Config
  root : String
  verbose : Bool
  deriving DecidableEq, Repr

namespace Project

def resolve (p : Project) (path : String) : String :=
  if FilePath.isAbsolute path ∨ FilePath.isCurrent p.root then path
  else FilePath.join p.root (FilePath.dropCurrent path)

def separator (p : Project) : String :=
  p.config.nestingSeparator

def inputFile (p : Project) : String :=
  p.resolve p.config.inputFile

def outputFile (p : Project) : String :=
  match p.config.outputFile with
  | some output => p.resolve output
  | none => p.inputFile

def stringsDir (p : Project) : String :=
  match p.config.stringsDir with
  | some dir => p.resolve dir
  | none => (FilePath.parent? p.inputFile).getD "."

def isBaseFile (p : Project) (path : String) : Bool :=
  (FilePath.fileName? path).any (· ∈ p.config.baseFiles)

/-- The directories to search: the given ones, or else those of the settings. -/
def searchPaths (p : Project) (given : List String) : List String :=
  (if given.isEmpty then p.config.searchPaths else given).map p.resolve

end Project
end Phrasebook
