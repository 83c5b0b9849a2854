import Phrasebook.Command.Basic
import Phrasebook.Project.Reading

/-!
Rebuilding the canonical file from the keys that the source files use.
-/
namespace Phrasebook.GenerateOptions

variable {m : Type → Type} [Monad m] [Files m]

def outputFile (options : GenerateOptions) (p : Project) : String :=
  match options.output with
  | some output => p.resolve output
  | none => p.outputFile

def planFor (searchPaths : List String) (output : String) (made : Generated) : Plan :=
  .done [.writeTree output made.tree]
    (.generated searchPaths made.files made.keyCount output made.recovered)

def plan (options : GenerateOptions) (color : Bool) (p : Project) : Attempt m Plan := do
  let old ← p.loadOldTree
  let searchPaths := p.searchPaths options.paths
  match generate old (← p.scan color searchPaths) p.separator with
  | .ok made => return planFor searchPaths (options.outputFile p) made
  | .error (.invalidCall e) => return .abort (.invalidCall e.site e.key e.fault)
  | .error (.scan (.syntaxFault e)) => return .abort e.issue
  | .error (.scan (.unreadable path cause)) => throw (.unreadableSource path cause)
  | .error (.unplaced e) => throw (.unplaced e)

end Phrasebook.GenerateOptions
