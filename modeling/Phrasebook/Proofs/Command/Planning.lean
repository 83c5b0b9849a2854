import Phrasebook.Command.Run
import Phrasebook.Proofs.Command.Locales
import Phrasebook.Proofs.Command.Performing

/-!
What the plan of each command says.
-/
namespace Phrasebook

open Project (isLocale)

variable {d : Disk} {p : Project} {color : Bool} {plan : Plan}

theorem looks_lint (options : LintOptions) (p : Project) :
    Looks d (options.plan p : Attempt (StateM Session) Plan).run :=
  .attempt_bind (looks_loadFile _ _) fun _ => .pure _

theorem looks_usage (options : UsageOptions) (color : Bool) (p : Project) :
    Looks d (options.plan color p : Attempt (StateM Session) Plan).run := by
  refine .attempt_bind (looks_scan p color _) fun scan => ?_
  split <;> exact .pure _

theorem looks_sort (options : SortOptions) (p : Project) :
    Looks d (options.plan p : Attempt (StateM Session) Plan).run := by
  refine .attempt_bind (looks_loadFile _ _) fun file => ?_
  split <;> exact .pure _

theorem looks_generate (options : GenerateOptions) (color : Bool) (p : Project) :
    Looks d (options.plan color p : Attempt (StateM Session) Plan).run := by
  refine .attempt_bind (looks_loadOldTree p) fun old => ?_
  refine .attempt_bind (looks_scan p color _) fun scan => ?_
  split <;> exact .pure _

theorem looks_prune (options : PruneOptions) (p : Project) :
    Looks d (options.plan p : Attempt (StateM Session) Plan).run := by
  refine .attempt_bind (looks_loadFile _ _) fun canonical => ?_
  refine .attempt_bind (looks_localeFiles p _) fun paths => ?_
  exact .attempt_bind (looks_loadLocales _) fun locales => .pure _

theorem looks_rekey (options : RekeyOptions) (color : Bool) (p : Project) :
    Looks d (options.plan color p : Attempt (StateM Session) Plan).run := by
  refine .attempt_bind (looks_loadFile _ _) fun canonical => ?_
  have hrest (f : List PhraseFile → Attempt (StateM Session) Plan)
      (hf : ∀ locales, Looks d (f locales).run) :
      Looks d (p.localeFiles options.locales >>= fun paths =>
        Project.loadLocales paths >>= f).run :=
    .attempt_bind (looks_localeFiles p _) fun paths => .attempt_bind (looks_loadLocales paths) hf
  cases (options.rekey p.separator).check canonical.tree with
  | error e =>
    exact .pure (Except.error (CommandError.rekey e))
  | ok _ =>
    refine hrest _ fun locales => ?_
    split <;> exact .pure _

theorem looks_task (color : Bool) (p : Project) (task : ProjectTask) :
    Looks d (task.plan color p : Attempt (StateM Session) Plan).run := by
  cases task with
  | generate options => exact looks_generate options color p
  | rekey options => exact looks_rekey options color p
  | prune options => exact looks_prune options p
  | lint options => exact looks_lint options p
  | usage options => exact looks_usage options color p
  | sort options => exact looks_sort options p

theorem looks_init : Looks d (planInit : Attempt (StateM Session) Plan).run := by
  refine .attempt_bind (.lift (looks_present _)) fun found => ?_
  split <;> exact .pure _

theorem looks_command (color : Bool) (command : Command) :
    Looks d (command.plan color : Attempt (StateM Session) Plan).run := by
  cases command with
  | onProject options task => exact .attempt_bind (looks_open options) fun p => looks_task color p task
  | init => exact looks_init

theorem lint_plan {options : LintOptions} (h : d.outcome (options.plan p) = .ok plan) :
    plan.actions = [] := by
  obtain ⟨file, -, remarks, h⟩ := Looks.of_bind (looks_loadFile _ _) (Disk.yields_of_outcome h)
  cases h
  rfl

theorem usage_plan {options : UsageOptions} (h : d.outcome (options.plan color p) = .ok plan) :
    plan.actions = [] := by
  obtain ⟨scan, -, remarks, h⟩ := Looks.of_bind (looks_scan p color _) (Disk.yields_of_outcome h)
  split at h <;> cases h <;> rfl

theorem sort_plan {options : SortOptions} (h : d.outcome (options.plan p) = .ok plan) :
    plan.fatal = false ∧
      (plan.actions = [] ∨
        ∃ text, plan.actions = [.write .sortedPhrases (options.path p) text]) := by
  obtain ⟨file, -, remarks, h⟩ := Looks.of_bind (looks_loadFile _ _) (Disk.yields_of_outcome h)
  split at h
  · cases h
    exact ⟨rfl, .inr ⟨_, rfl⟩⟩
  · cases h
    exact ⟨rfl, .inl rfl⟩

theorem generate_plan {options : GenerateOptions}
    (h : d.outcome (options.plan color p) = .ok plan) :
    plan.actions = [] ∨
      ∃ old scan made, d.outcome p.loadOldTree = .ok old ∧
        d.outcome (p.scan color (p.searchPaths options.paths)) = .ok scan ∧
        generate old scan p.separator = .ok made ∧
        plan = GenerateOptions.planFor (p.searchPaths options.paths) (options.outputFile p) made := by
  obtain ⟨old, hold, h⟩ := Looks.of_bind (looks_loadOldTree p) (Disk.yields_of_outcome h)
  obtain ⟨scan, hscan, remarks, h⟩ := Looks.of_bind (looks_scan p color _) h
  split at h
  · rename_i made hmade
    cases h
    exact .inr ⟨old, scan, made, hold, hscan, hmade, rfl⟩
  · cases h
    exact .inl rfl
  · cases h
    exact .inl rfl
  · cases h
  · cases h

theorem prune_plan {options : PruneOptions} (h : d.outcome (options.plan p) = .ok plan) :
    ∃ canonical paths locales, d.phraseFile? p.inputFile = some canonical ∧
      d.outcome (p.localeFiles options.locales) = .ok paths ∧
      d.outcome (Project.loadLocales (paths.filter (!p.isBaseFile ·))) = .ok locales ∧
      plan = options.planFor p.verbose (.ofTree p.separator canonical.tree) p.separator locales := by
  obtain ⟨canonical, hcanonical, h⟩ :=
    Looks.of_bind (looks_loadFile _ _) (Disk.yields_of_outcome h)
  obtain ⟨paths, hpaths, h⟩ := Looks.of_bind (looks_localeFiles p _) h
  obtain ⟨locales, hlocales, remarks, h⟩ := Looks.of_bind (looks_loadLocales _) h
  cases h
  exact ⟨canonical, paths, locales, phraseFile?_of_loadFile hcanonical, hpaths, hlocales, rfl⟩

theorem rekey_plan {options : RekeyOptions} (h : d.outcome (options.plan color p) = .ok plan) :
    ∃ canonical paths locales outcome tree, d.phraseFile? p.inputFile = some canonical ∧
      (options.rekey p.separator).check canonical.tree = .ok () ∧
      (options.rekey p.separator).apply canonical.tree = .ok outcome ∧
      d.outcome (p.localeFiles options.locales) = .ok paths ∧
      d.outcome (Project.loadLocales paths) = .ok locales ∧
      plan = options.planFor (options.rekey p.separator) color p.inputFile tree locales := by
  obtain ⟨canonical, hcanonical, h⟩ :=
    Looks.of_bind (looks_loadFile _ _) (Disk.yields_of_outcome h)
  cases hcheck : (options.rekey p.separator).check canonical.tree with
  | error e =>
    rw [hcheck] at h
    obtain ⟨remarks, h⟩ := h
    cases h
  | ok _ =>
    rw [hcheck] at h
    obtain ⟨paths, hpaths, h⟩ := Looks.of_bind (looks_localeFiles p _) h
    obtain ⟨locales, hlocales, remarks, h⟩ := Looks.of_bind (looks_loadLocales _) h
    have hcanonical := phraseFile?_of_loadFile hcanonical
    split at h
    · cases h
    · rename_i hskipped
      cases h
      exact ⟨canonical, paths, locales, _, _, hcanonical, hcheck, hskipped, hpaths, hlocales, rfl⟩
    · rename_i tree hmoved
      cases h
      exact ⟨canonical, paths, locales, _, _, hcanonical, hcheck, hmoved, hpaths, hlocales, rfl⟩

theorem init_plan (h : d.outcome planInit = .ok plan) :
    ∃ text, plan.actions = [.write .settings Config.fileName text] ∧ plan.fatal = false := by
  have h := Looks.of_lift_bind (looks_present _) (Disk.yields_of_outcome h)
  obtain ⟨remarks, h⟩ := h
  split at h
  · cases h
  · cases h
    exact ⟨_, rfl, rfl⟩

end Phrasebook
