import Phrasebook.Command.Basic
import Phrasebook.Project.Reading

/-!
Sorting the keys of a phrase file.
-/
namespace Phrasebook.SortOptions

variable {m : Type → Type} [Monad m] [Files m]

/-- The file to sort, by default the canonical one. -/
def path (options : SortOptions) (p : Project) : String :=
  match options.file with
  | some file => p.resolve file
  | none => p.inputFile

def plan (options : SortOptions) (p : Project) : Attempt m Plan := do
  let path := options.path p
  let file ← Project.loadFile .load path
  match file.sorted? with
  | some text => return .done [.write .sortedPhrases path text] (.sorted path true)
  | none => return .done [] (.sorted path false)

end Phrasebook.SortOptions
