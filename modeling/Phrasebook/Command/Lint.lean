import Phrasebook.Command.Basic
import Phrasebook.Lint.Run
import Phrasebook.Project.Reading
import Phrasebook.Text.Listing

/-!
Checking the canonical file.
-/
namespace Phrasebook.LintOptions

variable {m : Type → Type} [Monad m] [Files m]

def selected (options : LintOptions) : List Rule :=
  if options.rules.isEmpty then Lint.rules else options.rules

/-- The words that should not be written out. Options take precedence over settings. -/
def denylist (options : LintOptions) (config : Config) : Lint.Denylist where
  words := (options.hardcodedWords.map Text.listed).getD config.hardcodedWords
  allowedKeys := (options.allowedKeys.map Text.listed).getD config.allowedHardcodedKeys

def plan (options : LintOptions) (p : Project) : Attempt m Plan := do
  let file ← Project.loadFile .load p.inputFile
  let issues := Lint.run file p.separator options.selected (options.denylist p.config)
  return ⟨[], .linted file.path file.tree.leaves.length, issues, false⟩

end Phrasebook.LintOptions
