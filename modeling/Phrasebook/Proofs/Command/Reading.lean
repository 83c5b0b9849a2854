import Phrasebook.Proofs.Command.Looking
import Phrasebook.Project.Opening
import Phrasebook.Project.Reading

/-!
What commands read before they plan anything.
-/
namespace Phrasebook

variable {d : Disk}

theorem looks_canonical (path : String) : Looks d (Files.canonical path) :=
  fun remarks => ⟨remarks, rfl⟩

theorem looks_isFile (path : String) : Looks d (Files.isFile path) :=
  fun remarks => ⟨remarks, rfl⟩

theorem looks_isDirectory (path : String) : Looks d (Files.isDirectory path) :=
  fun remarks => ⟨remarks, rfl⟩

theorem looks_present (path : String) : Looks d (Files.present path) :=
  fun remarks => ⟨remarks, rfl⟩

theorem looks_ownKind (path : String) : Looks d (Files.ownKind path) :=
  fun remarks => ⟨remarks, rfl⟩

theorem looks_list (path : String) : Looks d (Files.list path) :=
  fun remarks => ⟨remarks, rfl⟩

theorem looks_read (path : String) : Looks d (Files.read path) :=
  fun remarks => ⟨remarks, rfl⟩

theorem looks_remark (text : String) : Looks d (Files.remark text) :=
  fun remarks => ⟨remarks ++ [text], rfl⟩

theorem looks_readText (path : String) : Looks d (Files.readText path) := by
  refine .bind (looks_read path) fun r => ?_
  cases r with
  | error e => exact .pure _
  | ok bytes =>
    dsimp only
    split <;> exact .pure _

theorem looks_load (path : String) : Looks d (PhraseFile.load path) := by
  refine .bind (looks_readText path) fun r => ?_
  cases r with
  | error cause => exact .pure _
  | ok text => exact .pure _

theorem looks_configFile? (directories : List String) :
    Looks d (Project.configFile? directories) := by
  induction directories with
  | nil => exact .pure none
  | cons directory outer ih =>
    refine .bind (looks_present _) fun found => ?_
    cases found with
    | true => exact .pure _
    | false =>
      refine .bind (looks_present _) fun top => ?_
      cases top with
      | true => exact .pure none
      | false => exact ih

theorem looks_checkConfig (config : Config) :
    Looks d (Project.checkConfig config : Attempt (StateM Session) Unit).run := by
  rw [Project.checkConfig]
  split
  · exact .pure _
  · exact .pure _

theorem looks_readConfig (path : String) :
    Looks d (Project.readConfig path : Attempt (StateM Session) Config).run := by
  refine .attempt_bind (.lift (looks_readText path)) fun r => ?_
  cases r with
  | error cause => exact .pure _
  | ok text =>
    dsimp only
    split
    · exact .pure _
    · exact .attempt_bind (looks_checkConfig _) fun _ => .pure _

theorem looks_loadConfig (root : String) (verbose : Bool) :
    Looks d (Project.loadConfig root verbose : Attempt (StateM Session) Config).run := by
  refine .attempt_bind (.lift (looks_canonical root)) fun r => ?_
  cases r with
  | error cause => exact .pure _
  | ok place =>
    refine .attempt_bind (.lift (looks_configFile? _)) fun found => ?_
    cases found with
    | some path => exact looks_readConfig path
    | none =>
      cases verbose with
      | false => exact .pure _
      | true => exact .attempt_bind (.lift (looks_remark _)) fun _ => .pure _

theorem looks_open (options : ProjectOptions) :
    Looks d (Project.load options : Attempt (StateM Session) Project).run := by
  refine .attempt_bind (looks_loadConfig _ _) fun config => ?_
  exact .attempt_bind (looks_checkConfig _) fun _ => .pure _

theorem looks_skip (color verbose : Bool) (path : String) (cause : FileError) :
    Looks d (SourceScan.skip color verbose path cause) := by
  cases verbose with
  | false => exact .pure _
  | true => exact .bind (looks_remark _) fun _ => .pure _

theorem looks_visit {inside : String → StateM Session SourceScan.Found}
    (hinside : ∀ path, Looks d (inside path)) (patterns : List (List Glob.Token)) (path : String)
    (kind : FileKind) : Looks d (SourceScan.visit patterns inside path kind) := by
  unfold SourceScan.visit
  split
  · exact .pure _
  · cases kind with
    | directory => exact hinside path
    | file => exact .pure _
    | link => exact .pure _
    | other => exact .pure _

theorem looks_walk (color verbose : Bool) (patterns : List (List Glob.Token)) (depth : Nat)
    (path : String) : Looks d (SourceScan.walk color verbose patterns depth path) := by
  induction depth generalizing path with
  | zero => exact looks_skip color verbose path _
  | succ depth ih =>
    refine .bind (looks_list path) fun r => ?_
    cases r with
    | error cause => exact looks_skip color verbose path cause
    | ok siblings =>
      exact .bind (.mapM (fun sibling => looks_visit ih patterns _ _) _) fun _ => .pure _

theorem looks_filesBelow (color verbose : Bool) (patterns : List (List Glob.Token))
    (root : String) : Looks d (SourceScan.filesBelow color verbose patterns root) := by
  have hwalk := looks_walk (d := d) color verbose patterns SourceScan.maxDepth
  refine .bind (looks_present root) fun found => ?_
  cases found with
  | false =>
    cases verbose with
    | false => exact .pure _
    | true => exact .bind (looks_remark _) fun _ => .pure _
  | true =>
    refine .bind (looks_ownKind root) fun r => ?_
    cases r with
    | error cause => exact looks_skip color verbose root cause
    | ok kind =>
      cases kind with
      | link =>
        refine .bind (looks_isDirectory root) fun inside => ?_
        cases inside with
        | false => exact .pure _
        | true => exact hwalk root
      | directory => exact looks_visit hwalk patterns root _
      | file => exact looks_visit hwalk patterns root _
      | other => exact looks_visit hwalk patterns root _

theorem looks_files (color verbose : Bool) (patterns : List (List Glob.Token))
    (roots : List String) : Looks d (SourceScan.files color verbose patterns roots) :=
  .bind (.mapM (looks_filesBelow color verbose patterns) roots) fun _ => .pure _

theorem looks_remarkSkipped (color verbose : Bool) (skipped : Nat) :
    Looks d (SourceScan.remarkSkipped color verbose skipped) := by
  rw [SourceScan.remarkSkipped]
  split
  · exact looks_remark _
  · exact .pure _

theorem looks_extractFile (functions : List String) (path : String) :
    Looks d (SourceScan.extractFile functions path) := by
  refine .bind (looks_read path) fun r => ?_
  cases r with
  | error e => exact .pure _
  | ok bytes => exact .pure _

theorem looks_scan (p : Project) (color : Bool) (searchPaths : List String) :
    Looks d (p.scan color searchPaths : Attempt (StateM Session) Scan).run := by
  rw [Project.scan]
  split
  · exact .pure _
  · refine .lift (.bind (looks_files color _ _ _) fun found => ?_)
    refine .bind (looks_remarkSkipped color _ _) fun _ => ?_
    exact .mapM (fun path => looks_extractFile _ path) found.files

theorem looks_loadFile (wrap : LoadError → CommandError) (path : String) :
    Looks d (Project.loadFile wrap path : Attempt (StateM Session) PhraseFile).run := by
  refine .attempt_bind (.lift (looks_load path)) fun r => ?_
  cases r with
  | ok file => exact .pure _
  | error e => exact .pure _

theorem looks_loadOldTree (p : Project) :
    Looks d (p.loadOldTree : Attempt (StateM Session) Tree).run := by
  refine .attempt_bind (.lift (looks_load p.inputFile)) fun r => ?_
  cases r with
  | ok file => exact .pure _
  | error e =>
    dsimp only
    split <;> exact .pure _

theorem looks_isPhraseFile (path : String) : Looks d (Project.isPhraseFile path) := by
  rw [Project.isPhraseFile]
  split_ifs
  · exact looks_isFile path
  · exact .pure false

theorem looks_phraseFiles (directory : String) :
    Looks d (Project.phraseFiles directory : Attempt (StateM Session) (List String)).run := by
  refine .attempt_bind (.lift (looks_list directory)) fun r => ?_
  cases r with
  | error cause => exact .pure _
  | ok names => exact .lift (.filterM looks_isPhraseFile _)

theorem looks_isInputFile (p : Project) (path : String) : Looks d (p.isInputFile path) := by
  refine .bind (looks_canonical path) fun mine => .bind (looks_canonical p.inputFile) fun input => ?_
  cases mine with
  | error e => exact .pure _
  | ok a =>
    cases input with
    | error e => exact .pure _
    | ok b => exact .pure _

theorem looks_isOther (p : Project) (path : String) :
    Looks d (do return !(← p.isInputFile path)) :=
  .bind (looks_isInputFile p path) fun found => .pure !found

theorem looks_localeFiles (p : Project) (wanted : List String) :
    Looks d (p.localeFiles wanted : Attempt (StateM Session) (List String)).run := by
  refine .attempt_bind (looks_phraseFiles _) fun paths => ?_
  exact .attempt_bind (.lift (.filterM (looks_isOther p) paths)) fun locales => .pure _

theorem looks_loadLocales (paths : List String) :
    Looks d (Project.loadLocales paths : Attempt (StateM Session) (List PhraseFile)).run := by
  exact .attempt_mapM (fun path => looks_loadFile _ path) paths

end Phrasebook
