import Phrasebook.Proofs.Traversal.Rebuilding

/-!
The order in which files are visited, and with it the order of the keys in the canonical file, does
not depend on how directories are listed, unless siblings have the same name up to case.
-/
namespace Phrasebook

variable {α : Type} {d : Disk}

theorem attempt_of_outcome {x : Attempt (StateM Session) α} {a : α} (hx : Looks d x.run)
    (h : d.outcome x = .ok a) (remarks : List String) :
    ∃ more, (⟨d, remarks⟩ : Session).attempt x = (.ok a, ⟨d, more⟩) := by
  obtain ⟨more, hmore⟩ := hx remarks
  exact ⟨more, hmore.trans (congrArg (·, (⟨d, more⟩ : Session)) h)⟩

section

variable {color : Bool} {environment : String → Option String} {words : List String}
  {options : ProjectOptions} {task : GenerateOptions} {p : Project}
  {patterns : List (List Glob.Token)} {searchPaths paths : List String} {old : Tree}
  {text : String} {written : Disk}

def Disk.extracted (d : Disk) (functions paths : List String) : Scan :=
  paths.map fun path => d.answer (SourceScan.extractFile functions path)

/-- The files of a project are scanned in the order in which they are found. -/
theorem outcome_scan (hpatterns : p.config.patterns = .ok patterns)
    (hfiles : (d.answer (SourceScan.files color p.verbose patterns searchPaths)).files = paths) :
    d.outcome (p.scan color searchPaths) =
      .ok (d.extracted (functionNames p.config.extraFunctions) paths) := by
  have hextract := looks_extractFile (d := d) (functionNames p.config.extraFunctions)
  rw [Project.scan, hpatterns]
  show d.outcome (ExceptT.lift (SourceScan.run _ _ _ _ _)) = _
  have hremark := looks_remarkSkipped (d := d) color p.verbose
    (d.answer (SourceScan.files color p.verbose patterns searchPaths)).skipped
  rw [Looks.outcome_lift, SourceScan.run,
    Looks.answer_bind (looks_files _ _ _ _) (.bind hremark fun _ => .mapM hextract _),
    Looks.answer_bind hremark (.mapM hextract _), Looks.answer_mapM hextract, hfiles,
    Disk.extracted]

/-- The canonical file is written from the files that are found, in the order in which they are. -/
theorem disk_of_generate (remarks : List String)
    (hparse : CommandLine.parse environment words =
      .ok (some (.onProject options (.generate task))))
    (hload : d.outcome (Project.load options) = .ok p) (hold : d.outcome p.loadOldTree = .ok old)
    (hpatterns : p.config.patterns = .ok patterns)
    (hfiles : (d.answer (SourceScan.files color p.verbose patterns
      (p.searchPaths task.paths))).files = paths)
    (hmade : (generate old (d.extracted (functionNames p.config.extraFunctions) paths)
      p.separator).map (·.tree.render) = .ok text)
    (hwrite : d.write (task.outputFile p) (Text.encode text) = .ok written) :
    ((runProgram color environment words : StateM Session (Except CommandLine.Stop Reply))
      ⟨d, remarks⟩).2.disk = written := by
  obtain ⟨made, hgenerate, rfl⟩ := map_eq_ok_iff.mp hmade
  obtain ⟨loaded, hloaded⟩ := attempt_of_outcome (looks_open options) hload remarks
  obtain ⟨read, hread⟩ := attempt_of_outcome (looks_loadOldTree p) hold loaded
  obtain ⟨scanned, hscanned⟩ :=
    attempt_of_outcome (looks_scan p color _) (outcome_scan hpatterns hfiles) read
  have hplan : (⟨d, remarks⟩ : Session).attempt
      ((Command.onProject options (.generate task)).plan color) =
        (.ok (GenerateOptions.planFor (p.searchPaths task.paths) (task.outputFile p) made),
          ⟨d, scanned⟩) := by
    refine (attempt_bind_of_ok hloaded).trans ?_
    refine (attempt_bind_of_ok hread).trans ?_
    refine (attempt_bind_of_ok hscanned).trans ?_
    rw [hgenerate]
    rfl
  have hreply := reply_of_perform hplan (attempt_write_cons_of_ok hwrite [])
  simp only [runProgram, hparse, bind, StateT.bind, hreply]
  rfl

end

def Disk.ofSources (sources : List (String × String)) : Disk :=
  ⟨[], (["src"], .directory) ::
    sources.map fun (name, code) => (["src", name], .file (Text.encode code))⟩

namespace SmallProject

def words : List String :=
  ["generate", "src", "--input", "en.json"]

def options : ProjectOptions where
  sourceRoot := none
  separator := none
  input := some "en.json"
  stringsDir := none
  verbose := false

def project : Project :=
  ⟨Project.applyOptions options .default, ".", false⟩

def patterns : List (List Glob.Token) :=
  project.config.patterns.toOption.getD []

def rebuild (d : Disk) : Except CommandLine.Stop Reply × Session :=
  (runProgram false (fun _ => none) words : StateM Session (Except CommandLine.Stop Reply)) ⟨d, []⟩

theorem parse_words : CommandLine.parse (fun _ => none) words =
    .ok (some (.onProject options (.generate ⟨["src"], none⟩))) := by
  decide +kernel

theorem file?_rebuild {siblings : List (String × FileKind)} {text : String}
    (hload : d.outcome (Project.load options) = .ok project)
    (hold : d.outcome project.loadOldTree = .ok .nil) (hkind : d.kind? "src" = some .directory)
    (hown : d.ownKind "src" = .ok .directory) (hlist : d.list "src" = .ok siblings)
    (hordered : siblings.Pairwise fun a b => SourceScan.nameLe a.1 b.1)
    (hmade : (generate .nil (d.extracted (functionNames []) (siblings.flatMap fun sibling =>
      (SourceScan.visited d patterns (SourceScan.maxDepth - 1) (FilePath.join "src" sibling.1)
        sibling.2).files)) "|").map (·.tree.render) = .ok text)
    (hwrite : d.write "en.json" (Text.encode text) = .ok (d.put ["en.json"] (Text.encode text))) :
    (rebuild d).2.disk.file? ["en.json"] = some (Text.encode text) := by
  have hsearched : SourceScan.isIgnored patterns "src" = false := by decide +kernel
  have henters : SourceScan.Enters d patterns "src" :=
    ⟨by rw [hkind]; rfl, .inr ⟨hown, hsearched⟩⟩
  have hfiles := SourceScan.files_of_listed false false henters hlist hordered
  rw [rebuild, disk_of_generate [] parse_words hload hold (by decide +kernel) hfiles hmade hwrite,
    Disk.file?, Disk.item?_put (by decide), if_pos rfl]

end SmallProject

/-- The order in which siblings are visited does not depend on how they are listed just if no two of
them have the same name up to case. A search of a disk finds the same files in the same order,
however the directories are listed, just if it comes upon no two such siblings with source files at
or below both. Then the canonical file is rebuilt the same, too. -/
theorem order_independent_of_listing_iff {α : Type} (name : α → String) (siblings : List α)
    (hd : d.Proper) (color : Bool) :
    ((∀ listed : List α, listed.Perm siblings →
        SourceScan.visitOrder name listed = SourceScan.visitOrder name siblings) ↔
      ∀ a ∈ siblings, ∀ b ∈ siblings,
        Text.lowercase (name a) = Text.lowercase (name b) → a = b) ∧
      (∀ (verbose : Bool) (patterns : List (List Glob.Token)) (roots : List String),
        (∀ e, d.Relisted e → e.answer (SourceScan.files color verbose patterns roots) =
            d.answer (SourceScan.files color verbose patterns roots)) ↔
          ∀ root ∈ roots, ¬SourceScan.Clashes d patterns root) ∧
      ∀ (environment : String → Option String) (words remarks : List String)
        (options : ProjectOptions) (task : GenerateOptions),
        CommandLine.parse environment words = .ok (some (.onProject options (.generate task))) →
        (∀ p, d.outcome (Project.load options) = .ok p →
          ¬p.Clashes d (p.searchPaths task.paths)) →
        ∀ e, d.Relisted e →
          let run (disk : Disk) := (runProgram color environment words :
            StateM Session (Except CommandLine.Stop Reply)) ⟨disk, remarks⟩
          (run e).1 = (run d).1 ∧
            ∀ place, (run e).2.disk.file? place = (run d).2.disk.file? place := by
  refine ⟨SourceScan.visitOrder_fixed_iff, ?_, ?_⟩
  · intro verbose patterns roots
    exact SourceScan.files_fixed_iff hd color verbose roots
  · intro environment words remarks options task hparse hclash e h run
    obtain ⟨hreply, hfiles⟩ := reply_generate_eq h hd hclash color remarks
    have hrun (disk : Disk) : run disk =
        let replied := ((Command.onProject options (.generate task)).reply color :
          StateM Session Reply) ⟨disk, remarks⟩
        (.ok replied.1, replied.2) := by
      simp only [run, runProgram, hparse]
      rfl
    rw [hrun, hrun]
    exact ⟨congrArg Except.ok hreply, hfiles⟩

/-- Siblings whose names differ in more than case, listed in two orders. -/
theorem rebuilt_alike_of_names_apart :
    let d := Disk.ofSources [("alpha.html", "_t('alpha')"), ("Beta.html", "_t('beta')")]
    let e := Disk.ofSources [("Beta.html", "_t('beta')"), ("alpha.html", "_t('alpha')")]
    let text := "\x7b\n    \"alpha\": \"alpha\",\n    \"beta\": \"beta\"\n\x7d\n"
    d.Proper ∧ d.Relisted e ∧
      SourceScan.visitOrder Prod.fst (e.listing ["src"]) =
        SourceScan.visitOrder Prod.fst (d.listing ["src"]) ∧
      (SmallProject.rebuild e).1 = (SmallProject.rebuild d).1 ∧
      (SmallProject.rebuild d).2.disk.file? ["en.json"] = some (Text.encode text) ∧
      (SmallProject.rebuild e).2.disk.file? ["en.json"] = some (Text.encode text) := by
  intro d e text
  have hd : d.Proper := ⟨by unfold Assoc.Unique; decide +kernel, by decide +kernel⟩
  have h : d.Relisted e := ⟨rfl, by decide +kernel⟩
  have hnames : ∀ x ∈ d.entries, ∀ y ∈ d.entries, ∀ a ∈ x.1.getLast?, ∀ b ∈ y.1.getLast?,
      Text.lowercase a = Text.lowercase b → x.1 = y.1 := by decide +kernel
  have hapart : ∀ place, ∀ a ∈ d.listing place, ∀ b ∈ d.listing place,
      Text.lowercase a.1 = Text.lowercase b.1 → a = b := by
    intro place a ha b hb halike
    obtain ⟨x, hx, hxplace⟩ := Disk.exists_entry_of_mem_listing ha
    obtain ⟨y, hy, hyplace⟩ := Disk.exists_entry_of_mem_listing hb
    have hsame := hnames x hx y hy a.1 (by simp [hxplace]) b.1 (by simp [hyplace]) halike
    rw [hxplace, hyplace, List.append_cancel_left_eq, List.singleton_inj] at hsame
    exact List.inj_on_of_nodup_map (Disk.nodup_listing hd place) ha hb hsame
  have hclash (p : Project) : ¬p.Clashes d (p.searchPaths ["src"]) := by
    rintro ⟨_, _, _, _, -, hclash⟩
    exact SourceScan.not_clash_of_apart hapart hclash
  have hindependent := order_independent_of_listing_iff Prod.fst (d.listing ["src"]) hd false
  have horder :=
    hindependent.1.mpr (hapart ["src"]) (e.listing ["src"]) (h.perm_listing ["src"])
  have hsame := hindependent.2.2 (fun _ => none) SmallProject.words [] SmallProject.options
    ⟨["src"], none⟩ SmallProject.parse_words (fun p _ => hclash p) e h
  have hrebuilt : (SmallProject.rebuild d).2.disk.file? ["en.json"] = some (Text.encode text) :=
    SmallProject.file?_rebuild (by decide +kernel) (by decide +kernel) (by decide +kernel)
      (by decide +kernel) rfl (by decide +kernel) (by decide +kernel) (by decide +kernel)
  have hfile : (SmallProject.rebuild e).2.disk.file? ["en.json"] =
      (SmallProject.rebuild d).2.disk.file? ["en.json"] := by
    simpa only [SmallProject.rebuild] using hsame.2 ["en.json"]
  exact ⟨hd, h, horder, hsame.1, hrebuilt, hfile.trans hrebuilt⟩

/-- Siblings whose names differ only in case are visited as they are listed, and the keys of the
canonical file follow. -/
theorem case_only_names_follow_listing :
    let d := Disk.ofSources [("a.html", "_t('small')"), ("A.html", "_t('capital')")]
    let e := Disk.ofSources [("A.html", "_t('capital')"), ("a.html", "_t('small')")]
    d.Proper ∧ d.Relisted e ∧
      (SourceScan.visitOrder Prod.fst (d.listing ["src"])).map Prod.fst = ["a.html", "A.html"] ∧
      (SourceScan.visitOrder Prod.fst (e.listing ["src"])).map Prod.fst = ["A.html", "a.html"] ∧
      (SmallProject.rebuild d).2.disk.file? ["en.json"] = some (Text.encode
        "\x7b\n    \"small\": \"small\",\n    \"capital\": \"capital\"\n\x7d\n") ∧
      (SmallProject.rebuild e).2.disk.file? ["en.json"] = some (Text.encode
        "\x7b\n    \"capital\": \"capital\",\n    \"small\": \"small\"\n\x7d\n") := by
  intro d e
  have hd : d.Proper := ⟨by unfold Assoc.Unique; decide +kernel, by decide +kernel⟩
  have hordered : (d.listing ["src"]).Pairwise fun a b => SourceScan.nameLe a.1 b.1 := by
    decide +kernel
  have hordered' : (e.listing ["src"]).Pairwise fun a b => SourceScan.nameLe a.1 b.1 := by
    decide +kernel
  refine ⟨hd, ⟨rfl, by decide +kernel⟩, ?_, ?_, ?_, ?_⟩
  · rw [SourceScan.visitOrder, List.mergeSort_of_pairwise hordered]
    decide +kernel
  · rw [SourceScan.visitOrder, List.mergeSort_of_pairwise hordered']
    decide +kernel
  · exact SmallProject.file?_rebuild (by decide +kernel) (by decide +kernel) (by decide +kernel)
      (by decide +kernel) rfl (by decide +kernel) (by decide +kernel) (by decide +kernel)
  · exact SmallProject.file?_rebuild (by decide +kernel) (by decide +kernel) (by decide +kernel)
      (by decide +kernel) rfl (by decide +kernel) (by decide +kernel) (by decide +kernel)

end Phrasebook
