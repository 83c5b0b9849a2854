import Phrasebook.Program
import Phrasebook.Proofs.Command.Planning

/-!
What running the program does to the disk. A command that ends with an error leaves every file as it
was, and each command changes none but its own files.
-/
namespace Phrasebook

open Disk (Frame)
open Project (phraseExtension isLocale)

variable {before after d : Disk} {p : Project} {color : Bool} {plan : Plan}
  {actions : List Action} {place : Place}

/-- What rebuilding the canonical file may do to a disk: a single file is written, and only after all
calls have been accepted. -/
structure GenerateOptions.Effect (options : GenerateOptions) (color : Bool) (p : Project)
    (before after : Disk) : Prop where
  output (place : Place) : after.file? place ≠ before.file? place →
    before.locate (options.outputFile p) = .ok place
  accepted : after ≠ before → ∃ old scan made, before.outcome p.loadOldTree = .ok old ∧
    before.outcome (p.scan color (p.searchPaths options.paths)) = .ok scan ∧
    generate old scan p.separator = .ok made

/-- What moving a key may do to a disk: the canonical file is written and those of the wanted locale
files that can follow, and only after the key could be moved and all of these files were read. -/
structure RekeyOptions.Effect (options : RekeyOptions) (p : Project) (before after : Disk) :
    Prop where
  rewritten (place : Place) : after.file? place ≠ before.file? place →
    before.locate p.inputFile = .ok place ∨
      ∃ path locale tree, p.IsLocaleFile before options.locales path ∧
        before.locate path = .ok place ∧ before.phraseFile? path = some locale ∧
        (options.rekey p.separator).applyLocale locale.tree = .ok (.moved tree)
  movable : after ≠ before → ∃ canonical outcome,
    before.phraseFile? p.inputFile = some canonical ∧
    (options.rekey p.separator).check canonical.tree = .ok () ∧
    (options.rekey p.separator).apply canonical.tree = .ok outcome
  readable : after ≠ before →
    ∀ path, p.IsLocaleFile before options.locales path → (before.phraseFile? path).isSome

/-- What pruning may do to a disk: wanted locale files are written from which something is removed,
and only after all of them were read. The canonical file stays as it is, and so do the base files
and the unwanted locale files, unless a locale file of another name is a link to them. -/
structure PruneOptions.Effect (options : PruneOptions) (p : Project) (before after : Disk) :
    Prop where
  dryRun : options.dryRun → after = before
  rewritten (place : Place) : after.file? place ≠ before.file? place →
    ∃ path locale canonical, p.IsLocaleFile before options.locales path ∧
      p.isBaseFile path = false ∧ before.locate path = .ok place ∧
      before.phraseFile? path = some locale ∧ before.phraseFile? p.inputFile = some canonical ∧
      (locale.tree.prune (.ofTree p.separator canonical.tree) p.separator).removed ≠ []
  canonical (place : Place) : before.locate p.inputFile = .ok place →
    after.file? place = before.file? place
  base (path : String) (place : Place) : p.isBaseFile path → p.SoleName before path →
    before.locate path = .ok place → after.file? place = before.file? place
  unwanted (path : String) (place : Place) : isLocale options.locales path = false →
    p.SoleName before path → before.locate path = .ok place →
    after.file? place = before.file? place
  complete (path : String) (place : Place) (locale canonical : PhraseFile) :
    before.phraseFile? path = some locale → before.phraseFile? p.inputFile = some canonical →
    (locale.tree.prune (.ofTree p.separator canonical.tree) p.separator).removed = [] →
    before.locate path = .ok place → after.file? place = before.file? place
  readable : after ≠ before → ∀ path, p.IsLocaleFile before options.locales path →
    p.isBaseFile path = false → (before.phraseFile? path).isSome

def ProjectTask.Effect (color : Bool) (p : Project) (before after : Disk) : ProjectTask → Prop
  | .generate options => options.Effect color p before after
  | .rekey options => options.Effect p before after
  | .prune options => options.Effect p before after
  | .lint _ => after = before
  | .usage _ => after = before
  | .sort options =>
    ∀ place, after.file? place ≠ before.file? place → before.locate (options.path p) = .ok place

/-- It may do nothing. -/
theorem ProjectTask.effect_refl (color : Bool) (p : Project) (d : Disk) (task : ProjectTask) :
    task.Effect color p d d := by
  cases task with
  | generate options => exact ⟨fun _ h => absurd rfl h, fun h => absurd rfl h⟩
  | rekey options =>
    exact ⟨fun _ h => absurd rfl h, fun h => absurd rfl h, fun h => absurd rfl h⟩
  | prune options =>
    constructor
    · intro _
      rfl
    · intro place h
      exact absurd rfl h
    · intro place _
      rfl
    · intro path place _ _ _
      rfl
    · intro path place _ _ _
      rfl
    · intro path place locale canonical _ _ _ _
      rfl
    · intro h
      exact absurd rfl h
  | lint options => rfl
  | usage options => rfl
  | sort options => exact fun _ h => absurd rfl h

theorem locate_of_written_singleton {content : Content} {path text : String}
    (h : Written d [.write content path text] place) : d.locate path = .ok place := by
  obtain ⟨action, hmem, target, htarget, hlocate⟩ := h
  rw [List.mem_singleton.mp hmem] at htarget
  cases htarget
  exact hlocate

theorem not_written_nil : ¬Written d [] place := by
  rintro ⟨action, hmem, -⟩
  cases hmem

theorem written_of_changed (hframe : Frame (Written before actions) before after)
    (h : after.file? place ≠ before.file? place) : Written before actions place := by
  by_contra hnot
  exact h (hframe.file?_eq hnot)

theorem generate_effect {options : GenerateOptions}
    (h : before.outcome (options.plan color p) = .ok plan)
    (hframe : Frame (Written before plan.actions) before after)
    (hidle : (∀ action ∈ plan.actions, action.target? = none) → after = before) :
    options.Effect color p before after := by
  rcases generate_plan h with hnone | ⟨old, scan, made, hold, hscan, hmade, rfl⟩
  · rw [hidle (by simp [hnone])]
    exact ProjectTask.effect_refl color p before (.generate options)
  · constructor
    · intro place hchanged
      exact locate_of_written_singleton (written_of_changed hframe hchanged)
    · intro _
      exact ⟨old, scan, made, hold, hscan, hmade⟩

theorem sort_effect {options : SortOptions} (h : before.outcome (options.plan p) = .ok plan)
    (hframe : Frame (Written before plan.actions) before after) :
    (ProjectTask.sort options).Effect color p before after := by
  intro place hchanged
  have hwritten := written_of_changed hframe hchanged
  obtain ⟨-, hnone | ⟨text, hwrite⟩⟩ := sort_plan h
  · rw [hnone] at hwritten
    exact absurd hwritten not_written_nil
  · rw [hwrite] at hwritten
    exact locate_of_written_singleton hwritten

theorem safe_writeTree {wanted : List String} {path : String}
    (h : p.IsLocaleFile d wanted path) (tree : Tree) : (Action.writeTree path tree).Safe d :=
  Disk.isFile_iff.mp h.isFile

theorem mem_rekey_actions {r : Rekey} {locales : List PhraseFile} {action : Action}
    (h : action ∈ (locales.map (RekeyOptions.localeAction? r color)).filterMap id) :
    (∃ text, action = .remark text) ∨ ∃ locale ∈ locales, ∃ tree,
      r.applyLocale locale.tree = .ok (.moved tree) ∧ action = .writeTree locale.path tree := by
  obtain ⟨step, hstep, haction⟩ := List.mem_filterMap.mp h
  obtain ⟨locale, hlocale, rfl⟩ := List.mem_map.mp hstep
  rw [id, RekeyOptions.localeAction?] at haction
  split at haction
  · rename_i tree hmoved
    cases haction
    exact .inr ⟨locale, hlocale, tree, hmoved, rfl⟩
  · cases haction
  · cases haction
    exact .inl ⟨_, rfl⟩

theorem mem_prune_actions {options : PruneOptions} {verbose : Bool} {path : String}
    {pruned : Pruned} {action : Action}
    (h : action ∈ options.localeActions verbose path pruned) :
    (∃ text, action = .remark text) ∨
      options.dryRun = false ∧ pruned.removed ≠ [] ∧ action = .writeTree path pruned.tree := by
  rw [PruneOptions.localeActions] at h
  by_cases hremoved : pruned.removed = []
  · simp [hremoved] at h
  · rw [if_neg (by simpa using hremoved), List.mem_append] at h
    rcases h with hremark | hwrite
    · split_ifs at hremark
      · obtain ⟨key, -, rfl⟩ := List.mem_map.mp hremark
        exact .inl ⟨_, rfl⟩
      · cases hremark
    · split_ifs at hwrite with hdry
      · cases hwrite
      · exact .inr ⟨by simpa using hdry, hremoved, List.mem_singleton.mp hwrite⟩

theorem rekey_orderly {options : RekeyOptions} (h : d.outcome (options.plan color p) = .ok plan) :
    Orderly d plan.actions := by
  obtain ⟨canonical, paths, locales, outcome, tree, hcanonical, -, -, hpaths, hlocales, rfl⟩ :=
    rekey_plan h
  refine ⟨.inr (isFile_of_phraseFile? hcanonical), fun action haction => ?_⟩
  rcases mem_rekey_actions haction with ⟨text, rfl⟩ | ⟨locale, hlocale, moved, -, rfl⟩
  · trivial
  · have hlisted := (mem_localeFiles hpaths _).mp ((of_loadLocales hlocales).2 locale hlocale).1
    exact safe_writeTree hlisted moved

theorem rekey_effect {options : RekeyOptions}
    (h : before.outcome (options.plan color p) = .ok plan)
    (hframe : Frame (Written before plan.actions) before after) :
    options.Effect p before after := by
  obtain ⟨canonical, paths, locales, outcome, tree, hcanonical, hcheck, happly, hpaths, hlocales,
    rfl⟩ := rekey_plan h
  obtain ⟨hloaded, hlocales⟩ := of_loadLocales hlocales
  constructor
  · intro place hchanged
    obtain ⟨action, hmem, path, htarget, hlocate⟩ := written_of_changed hframe hchanged
    rcases List.mem_cons.mp hmem with rfl | hmem
    · cases htarget
      exact .inl hlocate
    · rcases mem_rekey_actions hmem with ⟨text, rfl⟩ | ⟨locale, hlocale, moved, hmoved, rfl⟩
      · cases htarget
      · cases htarget
        obtain ⟨hlisted, hfile⟩ := hlocales locale hlocale
        exact .inr ⟨locale.path, locale, moved, (mem_localeFiles hpaths _).mp hlisted, hlocate,
          hfile, hmoved⟩
  · intro _
    exact ⟨canonical, outcome, hcanonical, hcheck, happly⟩
  · intro _ path hpath
    exact hloaded path ((mem_localeFiles hpaths path).mpr hpath)

/-- The locale files that a plan for pruning writes. -/
theorem mem_prune_plan {options : PruneOptions} {verbose : Bool} {keys : CanonicalKeys}
    {separator : String} {locales : List PhraseFile} {action : Action}
    (h : action ∈ (options.planFor verbose keys separator locales).actions) :
    (∃ text, action = .remark text) ∨ options.dryRun = false ∧ ∃ locale ∈ locales,
      (locale.tree.prune keys separator).removed ≠ [] ∧
        action = .writeTree locale.path (locale.tree.prune keys separator).tree := by
  obtain ⟨⟨path, pruned⟩, hpruned, haction⟩ := List.mem_flatMap.mp h
  obtain ⟨locale, hlocale, heq⟩ := List.mem_map.mp hpruned
  cases heq
  rcases mem_prune_actions haction with hremark | ⟨hdry, hremoved, rfl⟩
  · exact .inl hremark
  · exact .inr ⟨hdry, locale, hlocale, hremoved, rfl⟩

theorem prune_orderly {options : PruneOptions} (h : d.outcome (options.plan p) = .ok plan) :
    Orderly d plan.actions := by
  obtain ⟨canonical, paths, locales, hcanonical, hpaths, hlocales, rfl⟩ := prune_plan h
  refine orderly_of_safe fun action haction => ?_
  rcases mem_prune_plan haction with ⟨text, rfl⟩ | ⟨-, locale, hlocale, -, rfl⟩
  · trivial
  · have hkept := ((of_loadLocales hlocales).2 locale hlocale).1
    exact safe_writeTree ((mem_localeFiles hpaths _).mp (List.mem_filter.mp hkept).1) _

/-- The files that a plan for pruning changes. -/
theorem pruned_of_changed {options : PruneOptions} {verbose : Bool} {keys : CanonicalKeys}
    {separator : String} {paths : List String} {locales : List PhraseFile}
    (hpaths : before.outcome (p.localeFiles options.locales) = .ok paths)
    (hlocales : ∀ file ∈ locales, file.path ∈ paths.filter (!p.isBaseFile ·) ∧
      before.phraseFile? file.path = some file)
    (hframe : Frame (Written before (options.planFor verbose keys separator locales).actions)
      before after)
    (hchanged : after.file? place ≠ before.file? place) :
    ∃ path locale, p.IsLocaleFile before options.locales path ∧ p.isBaseFile path = false ∧
      before.locate path = .ok place ∧ before.phraseFile? path = some locale ∧
      (locale.tree.prune keys separator).removed ≠ [] := by
  obtain ⟨action, hmem, path, htarget, hlocate⟩ := written_of_changed hframe hchanged
  rcases mem_prune_plan hmem with ⟨text, rfl⟩ | ⟨-, locale, hlocale, hremoved, rfl⟩
  · cases htarget
  · cases htarget
    obtain ⟨hkept, hfile⟩ := hlocales locale hlocale
    obtain ⟨hlisted, hbase⟩ := List.mem_filter.mp hkept
    exact ⟨locale.path, locale, (mem_localeFiles hpaths _).mp hlisted, by simpa using hbase,
      hlocate, hfile, hremoved⟩

theorem prune_effect {options : PruneOptions} (h : before.outcome (options.plan p) = .ok plan)
    (hframe : Frame (Written before plan.actions) before after)
    (hidle : (∀ action ∈ plan.actions, action.target? = none) → after = before) :
    options.Effect p before after := by
  obtain ⟨canonical, paths, locales, hcanonical, hpaths, hlocales, rfl⟩ := prune_plan h
  obtain ⟨hloaded, hlocales⟩ := of_loadLocales hlocales
  have hrewritten {place : Place} (hchanged : after.file? place ≠ before.file? place) :=
    pruned_of_changed hpaths hlocales hframe hchanged
  constructor
  · intro hdry
    apply hidle
    intro action hmem
    rcases mem_prune_plan hmem with ⟨text, rfl⟩ | ⟨hwet, -⟩
    · rfl
    · rw [hdry] at hwet
      cases hwet
  · intro place hchanged
    obtain ⟨path, locale, hlisted, hbase, hlocate, hfile, hremoved⟩ := hrewritten hchanged
    exact ⟨path, locale, canonical, hlisted, hbase, hlocate, hfile, hcanonical, hremoved⟩
  · intro place hinput
    by_contra hchanged
    obtain ⟨path, locale, hlisted, -, hlocate, -⟩ := hrewritten hchanged
    exact hlisted.locate_inputFile_ne hlocate hinput
  · intro other place hother hsole hlocate
    by_contra hchanged
    obtain ⟨path, locale, hlisted, hbase, hpath, -⟩ := hrewritten hchanged
    exact hlisted.locate_baseFile_ne hpath hsole hother hbase hlocate
  · intro other place hunwanted hsole hlocate
    by_contra hchanged
    obtain ⟨path, locale, hlisted, -, hpath, -⟩ := hrewritten hchanged
    exact hlisted.locate_unwanted_ne hsole hunwanted hpath hlocate
  · intro other place found input hfound hinput hnothing hlocate
    by_contra hchanged
    obtain ⟨path, locale, hlisted, -, hpath, hfile, hremoved⟩ := hrewritten hchanged
    rw [hcanonical] at hinput
    cases hinput
    rw [tree_of_locate_eq (hpath.trans hlocate.symm) hfile hfound] at hremoved
    exact hremoved hnothing
  · intro _ path hpath hbase
    have hlisted := (mem_localeFiles hpaths path).mpr hpath
    exact hloaded path (List.mem_filter.mpr ⟨hlisted, by simpa using hbase⟩)

theorem orderly_of_task {task : ProjectTask} (h : d.outcome (task.plan color p) = .ok plan) :
    Orderly d plan.actions := by
  cases task with
  | generate options =>
    rcases generate_plan h with hnone | ⟨old, scan, made, -, -, -, rfl⟩
    · rw [hnone]
      trivial
    · exact ⟨.inl rfl, by simp⟩
  | rekey options => exact rekey_orderly h
  | prune options => exact prune_orderly h
  | lint options =>
    rw [lint_plan h]
    trivial
  | usage options =>
    rw [usage_plan h]
    trivial
  | sort options =>
    obtain ⟨-, hnone | ⟨text, hwrite⟩⟩ := sort_plan h
    · rw [hnone]
      trivial
    · rw [hwrite]
      exact ⟨.inl rfl, by simp⟩

/-- A plan that was given up has no steps. -/
theorem idle_of_fatal {task : ProjectTask} (h : d.outcome (task.plan color p) = .ok plan)
    (hfatal : plan.fatal) : plan.actions = [] := by
  cases task with
  | generate options =>
    rcases generate_plan h with hnone | ⟨old, scan, made, -, -, -, rfl⟩
    · exact hnone
    · cases hfatal
  | rekey options =>
    obtain ⟨canonical, paths, locales, outcome, tree, -, -, -, -, -, rfl⟩ := rekey_plan h
    cases hfatal
  | prune options =>
    obtain ⟨canonical, paths, locales, -, -, -, rfl⟩ := prune_plan h
    cases hfatal
  | lint options => exact lint_plan h
  | usage options => exact usage_plan h
  | sort options =>
    rw [(sort_plan h).1] at hfatal
    cases hfatal

theorem effect_of_task {task : ProjectTask}
    (h : before.outcome (task.plan color p) = .ok plan)
    (hframe : Frame (Written before plan.actions) before after)
    (hidle : (∀ action ∈ plan.actions, action.target? = none) → after = before) :
    task.Effect color p before after := by
  cases task with
  | generate options => exact generate_effect h hframe hidle
  | rekey options => exact rekey_effect h hframe
  | prune options => exact prune_effect h hframe hidle
  | lint options => exact hidle (by simp [lint_plan h])
  | usage options => exact hidle (by simp [usage_plan h])
  | sort options => exact sort_effect h hframe

def exitCode : Except CommandLine.Stop Reply → Nat
  | .error stop => stop.exitCode
  | .ok reply => reply.status.code

theorem run_command (color : Bool) (command : Command) (s : Session)
    (horderly : ∀ plan, s.disk.outcome (command.plan color) = .ok plan →
      Orderly s.disk plan.actions) :
    (∃ plan after, s.disk.outcome (command.plan color) = .ok plan ∧
        s.attempt (command.run color) = (.ok plan, after) ∧
        Frame (Written s.disk plan.actions) s.disk after.disk ∧
        ((∀ action ∈ plan.actions, action.target? = none) → after.disk = s.disk)) ∨
      ∃ e after, s.attempt (command.run color) = (.error e, after) ∧ after.disk = s.disk := by
  obtain ⟨more, hplan⟩ := looks_command (d := s.disk) color command s.remarks
  have hattempt : s.attempt (command.plan color) =
      (s.disk.outcome (command.plan color), ⟨s.disk, more⟩) := hplan
  cases houtcome : s.disk.outcome (command.plan color) with
  | error e =>
    rw [houtcome] at hattempt
    exact .inr ⟨e, _, attempt_bind_of_error hattempt, rfl⟩
  | ok plan =>
    rw [houtcome] at hattempt
    have hrun : s.attempt (command.run color) = (⟨s.disk, more⟩ : Session).attempt
        (plan.perform >>= fun _ => pure plan) := attempt_bind_of_ok hattempt
    rcases perform_orderly (s := ⟨s.disk, more⟩) (horderly plan houtcome) with
      ⟨after, hperform, hframe⟩ | ⟨e, after, hperform, hsame⟩
    · refine .inl ⟨plan, after, rfl, hrun.trans (attempt_bind_of_ok hperform), hframe, fun hnone => ?_⟩
      obtain ⟨idle, hidle, hsame⟩ := perform_remarks (s := ⟨s.disk, more⟩) hnone
      rw [hperform] at hidle
      cases hidle
      exact hsame
    · exact .inr ⟨e, after, hrun.trans (attempt_bind_of_error hperform), hsame⟩

theorem reply_of_ok {command : Command} {s next : Session}
    (h : s.attempt (command.run color) = (.ok plan, next)) :
    (command.reply color : StateM Session Reply) s = (.ofPlan color command.verbose plan, next) := by
  have hrun : (command.run color : Attempt (StateM Session) Plan).run s = (.ok plan, next) := h
  simp only [Command.reply, bind, StateT.bind, hrun]
  rfl

theorem reply_of_error {command : Command} {s next : Session} {e : CommandError}
    (h : s.attempt (command.run color) = (.error e, next)) :
    (command.reply color : StateM Session Reply) s = (.ofError e, next) := by
  have hrun : (command.run color : Attempt (StateM Session) Plan).run s = (.error e, next) := h
  simp only [Command.reply, bind, StateT.bind, hrun]
  rfl

theorem fatal_of_code (h : plan.status.code = 2) : plan.fatal := by
  rw [Plan.status] at h
  split_ifs at h with hfatal
  · exact hfatal
  · cases h
  · cases h

theorem task_plan_of_command {options : ProjectOptions} {task : ProjectTask}
    (h : d.outcome ((Command.onProject options task).plan color) = .ok plan) :
    ∃ p, d.outcome (Project.load options) = .ok p ∧ d.outcome (task.plan color p) = .ok plan := by
  obtain ⟨p, hp, h⟩ := Looks.of_bind (looks_open options) (Disk.yields_of_outcome h)
  exact ⟨p, hp, Looks.outcome_of_yields (looks_task color p task) h⟩

theorem orderly_of_command {command : Command} (h : d.outcome (command.plan color) = .ok plan) :
    Orderly d plan.actions ∧ (plan.fatal → plan.actions = []) := by
  cases command with
  | onProject options task =>
    obtain ⟨p, -, htask⟩ := task_plan_of_command h
    exact ⟨orderly_of_task htask, idle_of_fatal htask⟩
  | init =>
    obtain ⟨text, hwrite, hfatal⟩ := init_plan h
    rw [hwrite, hfatal]
    exact ⟨⟨.inl rfl, by simp⟩, by simp⟩

def Command.Effect (color : Bool) (before after : Disk) : Command → Prop
  | .onProject options task =>
    match before.outcome (Project.load options) with
    | .ok p => task.Effect color p before after
    | .error _ => after = before
  | .init =>
    ∀ place, after.file? place ≠ before.file? place → before.locate Config.fileName = .ok place

theorem Command.effect_refl (color : Bool) (d : Disk) (command : Command) :
    command.Effect color d d := by
  cases command with
  | onProject options task =>
    rw [Command.Effect]
    split
    · exact task.effect_refl color _ d
    · rfl
  | init => exact fun _ h => absurd rfl h

theorem effect_of_command {command : Command}
    (h : before.outcome (command.plan color) = .ok plan)
    (hframe : Frame (Written before plan.actions) before after)
    (hidle : (∀ action ∈ plan.actions, action.target? = none) → after = before) :
    command.Effect color before after := by
  cases command with
  | onProject options task =>
    obtain ⟨p, hp, htask⟩ := task_plan_of_command h
    rw [Command.Effect, hp]
    exact effect_of_task htask hframe hidle
  | init =>
    intro place hchanged
    obtain ⟨text, hwrite, -⟩ := init_plan h
    have hwritten := written_of_changed hframe hchanged
    rw [hwrite] at hwritten
    exact locate_of_written_singleton hwritten

/-- Running a command has its effect. -/
theorem effect_of_program {environment : String → Option String} {words : List String}
    {command : Command} (hparse : CommandLine.parse environment words = .ok (some command))
    (color : Bool) (s : Session) :
    command.Effect color s.disk ((runProgram color environment words :
      StateM Session (Except CommandLine.Stop Reply)) s).2.disk := by
  simp only [runProgram, hparse, bind, StateT.bind]
  rcases run_command color command s fun plan hplan => (orderly_of_command hplan).1 with
    ⟨plan, after, hplan, hrun, hframe, hidle⟩ | ⟨e, after, hrun, hsame⟩
  · rw [reply_of_ok hrun]
    exact effect_of_command hplan hframe hidle
  · rw [reply_of_error hrun]
    show command.Effect color s.disk after.disk
    rw [hsame]
    exact command.effect_refl color s.disk

/-- A base file is pruned where a locale file is a link to it. -/
example :
    let s : Session := ⟨⟨[], [(["en.json"], .file (Text.encode "\x7b\"a\":\"1\"\x7d")),
      (["basefile.json"], .file (Text.encode "\x7b\"b\":\"2\"\x7d")),
      (["l10n"], .directory), (["l10n", "de.json"], .link "../basefile.json")]⟩, []⟩
    let words := ["prune", "--input", "en.json", "--strings-dir", "l10n"]
    ((runProgram false (fun _ => none) words :
      StateM Session (Except CommandLine.Stop Reply)) s).2.disk.file? ["basefile.json"] =
        some (Text.encode "\x7b\x7d\n") := by
  decide +kernel

end Phrasebook
