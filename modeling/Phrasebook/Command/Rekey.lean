import Phrasebook.Command.Basic
import Phrasebook.Project.Reading

/-!
Moving a key in the canonical file and in the locale files. Locales that cannot follow stay as they
are.
-/
namespace Phrasebook.RekeyOptions

variable {m : Type → Type} [Monad m] [Files m]

def rekey (options : RekeyOptions) (separator : String) : Rekey where
  oldKey := options.oldKey
  newKey := options.newKey
  separator := separator
  copy := options.copy
  policy := if options.allowExisting then .allow else .forbid

def localeAction? (r : Rekey) (color : Bool) (locale : PhraseFile) : Option Action :=
  match r.applyLocale locale.tree with
  | .ok (.moved tree) => some (.writeTree locale.path tree)
  | .ok .skipped => none
  | .error e =>
    let label := paint color .warning "warning:"
    some (.remark s!"{label} {locale.path}: {e.fullMessage}")

def planFor (options : RekeyOptions) (r : Rekey) (color : Bool) (input : String) (moved : Tree)
    (locales : List PhraseFile) : Plan :=
  let steps := locales.map (localeAction? r color)
  let actions := .writeTree input moved :: steps.filterMap id
  .done actions
    (.rekeyed options.oldKey options.newKey options.copy (actions.filterMap Action.target?)
      (steps.countP Option.isNone))

def plan (options : RekeyOptions) (color : Bool) (p : Project) : Attempt m Plan := do
  let r := options.rekey p.separator
  let canonical ← Project.loadFile .load p.inputFile
  if let .error e := r.check canonical.tree then throw (.rekey e)
  let locales ← Project.loadLocales (← p.localeFiles options.locales)
  match r.apply canonical.tree with
  | .error e => throw (.rekey e)
  | .ok .skipped => return options.planFor r color p.inputFile canonical.tree locales
  | .ok (.moved tree) => return options.planFor r color p.inputFile tree locales

end Phrasebook.RekeyOptions
