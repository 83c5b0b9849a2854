import Phrasebook.Proofs.Command.Effects
import Phrasebook.Proofs.Traversal.Clashes

/-!
Rebuilding the canonical file on disks that hold the same and list it in different orders. The
searched directories are all that is listed, so without a clash in them the file comes out the same,
with its keys in the same order.
-/
namespace Phrasebook

variable {α β : Type} {d e : Disk}

section

variable {command : Command} {color : Bool} {plan : Plan} {s planned after : Session}

theorem reply_of_plan_error {cause : CommandError}
    (hplan : s.attempt (command.plan color) = (.error cause, planned)) :
    (command.reply color : StateM Session Reply) s = (.ofError cause, planned) :=
  reply_of_error (attempt_bind_of_error hplan)

def Reply.ofAttempt (color verbose : Bool) (plan : Plan) : Except CommandError Unit → Reply
  | .ok () => .ofPlan color verbose plan
  | .error cause => .ofError cause

theorem reply_of_perform {r : Except CommandError Unit}
    (hplan : s.attempt (command.plan color) = (.ok plan, planned))
    (hperform : planned.attempt plan.perform = (r, after)) :
    (command.reply color : StateM Session Reply) s =
      (.ofAttempt color command.verbose plan r, after) := by
  have hrun : s.attempt (command.run color) =
      planned.attempt (plan.perform >>= fun _ => pure plan) := attempt_bind_of_ok hplan
  cases r with
  | ok _ => exact reply_of_ok (hrun.trans (attempt_bind_of_ok hperform))
  | error cause => exact reply_of_error (hrun.trans (attempt_bind_of_error hperform))

end

/-- Whether an action leaves two disks alone and answers the same on both of them. -/
structure Shared (d e : Disk) (x : StateM Session α) : Prop where
  left : Looks d x
  right : Looks e x
  same : e.answer x = d.answer x

namespace Shared

protected theorem pure (a : α) : Shared d e (pure a : StateM Session α) :=
  ⟨.pure a, .pure a, rfl⟩

theorem bind_answer {x : StateM Session α} {f : α → StateM Session β} (hx : Shared d e x)
    (hf : Shared d e (f (d.answer x))) : Shared d e (x >>= f) := by
  have hright : Looks e (f (e.answer x)) := by
    rw [hx.same]
    exact hf.right
  constructor
  · intro remarks
    rw [Looks.answer_bind hx.left hf.left]
    exact Looks.bind_run hx.left hf.left remarks
  · intro remarks
    rw [Looks.answer_bind hx.right hright]
    exact Looks.bind_run hx.right hright remarks
  · rw [Looks.answer_bind hx.right hright, Looks.answer_bind hx.left hf.left, hx.same]
    exact hf.same

protected theorem bind {x : StateM Session α} {f : α → StateM Session β} (hx : Shared d e x)
    (hf : ∀ a, Shared d e (f a)) : Shared d e (x >>= f) :=
  hx.bind_answer (hf _)

protected theorem mapM {f : α → StateM Session β} (hf : ∀ a, Shared d e (f a)) (as : List α) :
    Shared d e (as.mapM f) where
  left := .mapM (fun a => (hf a).left) as
  right := .mapM (fun a => (hf a).right) as
  same := by
    rw [Looks.answer_mapM fun a => (hf a).right, Looks.answer_mapM fun a => (hf a).left]
    exact List.map_congr_left fun a _ => (hf a).same

variable {x : Attempt (StateM Session) α} {f : α → Attempt (StateM Session) β}

theorem attempt_bind_outcome (hx : Shared d e x.run)
    (hf : ∀ a, d.outcome x = .ok a → Shared d e (f a).run) : Shared d e (x >>= f).run := by
  rw [ExceptT.run_bind]
  apply hx.bind_answer
  cases houtcome : d.answer x.run with
  | ok a => exact hf a houtcome
  | error cause => exact .pure _

theorem attempt_bind (hx : Shared d e x.run) (hf : ∀ a, Shared d e (f a).run) :
    Shared d e (x >>= f).run :=
  hx.attempt_bind_outcome fun a _ => hf a

theorem lift {y : StateM Session α} (hy : Shared d e y) :
    Shared d e (ExceptT.lift y : Attempt (StateM Session) α).run := by
  rw [ExceptT.run_lift]
  exact .bind hy fun a => .pure _

end Shared

section

variable (h : d.Relisted e) (hd : d.Proper)
include h hd

theorem shared_present (path : String) : Shared d e (Files.present path) :=
  ⟨looks_present path, looks_present path, congrArg Option.isSome (h.kind? hd path)⟩

theorem shared_readText (path : String) : Shared d e (Files.readText path) := by
  have hread : Shared d e (Files.read path) :=
    ⟨looks_read path, looks_read path, h.read hd path⟩
  refine .bind hread fun r => ?_
  cases r with
  | error cause => exact .pure _
  | ok bytes =>
    dsimp only
    split <;> exact .pure _

theorem shared_load (path : String) : Shared d e (PhraseFile.load path) := by
  refine .bind (shared_readText h hd path) fun r => ?_
  cases r with
  | error cause => exact .pure _
  | ok text => exact .pure _

theorem shared_configFile? (directories : List String) :
    Shared d e (Project.configFile? directories) := by
  induction directories with
  | nil => exact .pure none
  | cons directory outer ih =>
    refine .bind (shared_present h hd _) fun found => ?_
    cases found with
    | true => exact .pure _
    | false =>
      refine .bind (shared_present h hd _) fun top => ?_
      cases top with
      | true => exact .pure none
      | false => exact ih

omit h hd in
theorem shared_checkConfig (config : Config) :
    Shared d e (Project.checkConfig config : Attempt (StateM Session) Unit).run := by
  rw [Project.checkConfig]
  split <;> exact .pure _

theorem shared_readConfig (path : String) :
    Shared d e (Project.readConfig path : Attempt (StateM Session) Config).run := by
  refine .attempt_bind (.lift (shared_readText h hd path)) fun r => ?_
  cases r with
  | error cause => exact .pure _
  | ok text =>
    dsimp only
    split
    · exact .pure _
    · exact .attempt_bind (shared_checkConfig _) fun _ => .pure _

theorem shared_loadConfig (root : String) (verbose : Bool) :
    Shared d e (Project.loadConfig root verbose : Attempt (StateM Session) Config).run := by
  have hcanonical : Shared d e (Files.canonical root) :=
    ⟨looks_canonical root, looks_canonical root, h.canonical hd root⟩
  refine .attempt_bind (.lift hcanonical) fun r => ?_
  cases r with
  | error cause => exact .pure _
  | ok place =>
    refine .attempt_bind (.lift (shared_configFile? h hd _)) fun found => ?_
    cases found with
    | some path => exact shared_readConfig h hd path
    | none =>
      cases verbose with
      | false => exact .pure _
      | true =>
        have hremark (text : String) : Shared d e (Files.remark text) :=
          ⟨looks_remark text, looks_remark text, rfl⟩
        exact .attempt_bind (.lift (hremark _)) fun _ => .pure _

theorem shared_open (options : ProjectOptions) :
    Shared d e (Project.load options : Attempt (StateM Session) Project).run := by
  refine .attempt_bind (shared_loadConfig h hd _ _) fun config => ?_
  exact .attempt_bind (shared_checkConfig _) fun _ => .pure _

theorem shared_loadOldTree (p : Project) :
    Shared d e (p.loadOldTree : Attempt (StateM Session) Tree).run := by
  refine .attempt_bind (.lift (shared_load h hd p.inputFile)) fun r => ?_
  cases r with
  | ok file => exact .pure _
  | error cause =>
    dsimp only
    split <;> exact .pure _

theorem shared_extractFile (functions : List String) (path : String) :
    Shared d e (SourceScan.extractFile functions path) := by
  have hread : Shared d e (Files.read path) :=
    ⟨looks_read path, looks_read path, h.read hd path⟩
  refine .bind hread fun r => ?_
  cases r with
  | error cause => exact .pure _
  | ok bytes => exact .pure _

variable {p : Project} {searchPaths : List String}

omit h hd in
theorem shared_remarkSkipped (color verbose : Bool) (skipped : Nat) :
    Shared d e (SourceScan.remarkSkipped color verbose skipped) :=
  ⟨looks_remarkSkipped color verbose skipped, looks_remarkSkipped color verbose skipped, rfl⟩

def Project.Clashes (p : Project) (d : Disk) (searchPaths : List String) : Prop :=
  ∃ patterns, p.config.patterns = .ok patterns ∧
    ∃ root ∈ searchPaths, SourceScan.Clashes d patterns root

theorem shared_scan (hclash : ¬p.Clashes d searchPaths) (color : Bool) :
    Shared d e (p.scan color searchPaths : Attempt (StateM Session) Scan).run := by
  rw [Project.scan]
  split
  · exact .pure _
  · rename_i patterns hpatterns
    have hfiles : Shared d e (SourceScan.files color p.verbose patterns searchPaths) := by
      refine ⟨looks_files _ _ _ _, looks_files _ _ _ _, ?_⟩
      refine (SourceScan.files_fixed_iff hd color p.verbose searchPaths).mpr ?_ e h
      intro root hroot hbelow
      exact hclash ⟨patterns, hpatterns, root, hroot, hbelow⟩
    refine .lift (.bind hfiles fun found => .bind (shared_remarkSkipped color _ _) fun _ => ?_)
    exact .mapM (fun path => shared_extractFile h hd _ path) found.files

theorem shared_generate {options : GenerateOptions}
    (hclash : ¬p.Clashes d (p.searchPaths options.paths)) (color : Bool) :
    Shared d e (options.plan color p : Attempt (StateM Session) Plan).run := by
  refine .attempt_bind (shared_loadOldTree h hd p) fun old => ?_
  refine .attempt_bind (shared_scan h hd hclash color) fun scan => ?_
  split <;> exact .pure _

/-- A step that writes a file answers the same on both disks, which then have the same files. -/
theorem attempt_single_write (content : Content) (path text : String)
    (before before' : List String) :
    ∃ r after after', (⟨d, before⟩ : Session).attempt
        ([Action.write content path text].forM Action.perform) = (r, after) ∧
      (⟨e, before'⟩ : Session).attempt
        ([Action.write content path text].forM Action.perform) = (r, after') ∧
      ∀ place, after'.disk.file? place = after.disk.file? place := by
  rcases h.write hd path (Text.encode text) with
    ⟨place, hwrite, hwrite'⟩ | ⟨cause, hwrite, hwrite'⟩
  · exact ⟨_, _, _, attempt_write_cons_of_ok hwrite [], attempt_write_cons_of_ok hwrite' [],
      fun other => h.file?_put hd place other _⟩
  · exact ⟨_, _, _, attempt_write_cons_of_error hwrite [], attempt_write_cons_of_error hwrite' [],
      h.file? hd⟩

variable {options : ProjectOptions} {task : GenerateOptions}

theorem shared_command
    (hclash : ∀ p, d.outcome (Project.load options) = .ok p →
      ¬p.Clashes d (p.searchPaths task.paths)) (color : Bool) :
    Shared d e ((Command.onProject options (.generate task)).plan color :
      Attempt (StateM Session) Plan).run := by
  refine .attempt_bind_outcome (shared_open h hd options) fun p hp => ?_
  exact shared_generate h hd (hclash p hp) color

omit h hd in
theorem actions_of_generate {plan : Plan} {color : Bool}
    (hplan : d.outcome ((Command.onProject options (.generate task)).plan color) = .ok plan) :
    plan.actions = [] ∨ ∃ content path text, plan.actions = [.write content path text] := by
  obtain ⟨p, -, htask⟩ := task_plan_of_command hplan
  rcases generate_plan htask with hnone | ⟨old, scan, made, -, -, -, rfl⟩
  · exact .inl hnone
  · exact .inr ⟨_, _, _, rfl⟩

/-- Without a clash, rebuilding the canonical file gives the same reply and leaves the same files,
however the directories are listed. -/
theorem reply_generate_eq
    (hclash : ∀ p, d.outcome (Project.load options) = .ok p →
      ¬p.Clashes d (p.searchPaths task.paths)) (color : Bool) (remarks : List String) :
    let run (disk : Disk) := ((Command.onProject options (.generate task)).reply color :
      StateM Session Reply) ⟨disk, remarks⟩
    (run e).1 = (run d).1 ∧ ∀ place, (run e).2.disk.file? place = (run d).2.disk.file? place := by
  intro run
  have hshared := shared_command h hd hclash color
  obtain ⟨more, hleft⟩ := hshared.left remarks
  obtain ⟨more', hright⟩ := hshared.right remarks
  rw [hshared.same] at hright
  cases houtcome : d.outcome ((Command.onProject options (.generate task)).plan color) with
  | error cause =>
    rw [Disk.outcome] at houtcome
    rw [houtcome] at hleft hright
    simp only [run, reply_of_plan_error hleft, reply_of_plan_error hright]
    exact ⟨trivial, h.file? hd⟩
  | ok plan =>
    have hactions := actions_of_generate houtcome
    rw [Disk.outcome] at houtcome
    rw [houtcome] at hleft hright
    rcases hactions with hnone | ⟨content, path, text, hwrite⟩
    · have hperform (s : Session) : s.attempt plan.perform = (.ok (), s) := by
        rw [Plan.perform, hnone]
        rfl
      simp only [run, reply_of_perform hleft (hperform _), reply_of_perform hright (hperform _)]
      exact ⟨trivial, h.file? hd⟩
    · obtain ⟨r, after, after', hperform, hperform', hfiles⟩ :=
        attempt_single_write h hd content path text more more'
      rw [← hwrite] at hperform hperform'
      simp only [run, reply_of_perform hleft hperform, reply_of_perform hright hperform']
      exact ⟨trivial, hfiles⟩

end

end Phrasebook
