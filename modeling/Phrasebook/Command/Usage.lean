import Phrasebook.Command.Basic
import Phrasebook.Project.Reading
import Phrasebook.Usage

/-!
Showing which source files use a key, or how often every key is used.
-/
namespace Phrasebook.UsageOptions

variable {m : Type → Type} [Monad m] [Files m]

def summary (options : UsageOptions) (index : UsageIndex) : Summary :=
  match options.key with
  | some key => .consumers key ((index.consumers? key).getD [])
  | none => .counts (index.byCount.map fun (key, count) => (displayedKey key, count))

/-- The extractions of a scan, or its first failure. -/
def extractions (scan : Scan) : Except ScanFailure (List Extraction) :=
  scan.mapM id

def plan (options : UsageOptions) (color : Bool) (p : Project) : Attempt m Plan := do
  match extractions (← p.scan color (p.searchPaths options.paths)) with
  | .ok found => return .done [] (options.summary (.ofExtractions found))
  | .error (.syntaxFault e) => return .abort e.issue
  | .error (.unreadable path cause) => throw (.unreadableSource path cause)

end Phrasebook.UsageOptions
