import Phrasebook.Command.Basic
import Phrasebook.Project.Reading
import Phrasebook.Prune

/-!
Removing phrases from the locale files whose keys are gone from the canonical file.
-/
namespace Phrasebook.PruneOptions

variable {m : Type → Type} [Monad m] [Files m]

def localeActions (options : PruneOptions) (verbose : Bool) (path : String) (pruned : Pruned) :
    List Action :=
  if pruned.removed.isEmpty then []
  else
    (if verbose then pruned.removed.map fun key => .remark s!"  {path}: {key}" else []) ++
      if options.dryRun then [] else [.writeTree path pruned.tree]

def item? (path : String) (pruned : Pruned) : Option (String × Nat) :=
  if pruned.removed.isEmpty then none
  else some ((FilePath.fileName? path).getD "", pruned.removed.length)

def planFor (options : PruneOptions) (verbose : Bool) (keys : CanonicalKeys) (separator : String)
    (locales : List PhraseFile) : Plan :=
  let pruned := locales.map fun locale => (locale.path, locale.tree.prune keys separator)
  .done (pruned.flatMap fun (path, pruned) => options.localeActions verbose path pruned)
    (.pruned (pruned.filterMap fun (path, pruned) => item? path pruned) options.dryRun)

def plan (options : PruneOptions) (p : Project) : Attempt m Plan := do
  let canonical ← Project.loadFile .load p.inputFile
  let keys := CanonicalKeys.ofTree p.separator canonical.tree
  let paths := (← p.localeFiles options.locales).filter (!p.isBaseFile ·)
  return options.planFor p.verbose keys p.separator (← Project.loadLocales paths)

end Phrasebook.PruneOptions
