import Phrasebook.Proofs.Command.Reading
import Phrasebook.Proofs.Disk.Places

/-!
The phrase files of a project on a disk: those that can be loaded, and the locale files among them.
-/
namespace Phrasebook

open Project (phraseExtension isLocale)

variable {d : Disk} {p : Project} {path name : String} {place : Place} {file : PhraseFile}

def Disk.phraseFile? (d : Disk) (path : String) : Option PhraseFile :=
  (d.answer (PhraseFile.load path)).toOption

theorem answer_load (path : String) :
    d.answer (PhraseFile.load path) =
      match d.read path with
      | .error cause => .error (.unreadable path cause)
      | .ok bytes =>
        match Text.decode? bytes with
        | none => .error (.unreadable path .notText)
        | some text => (PhraseFile.parse path text).mapError LoadError.invalid := by
  have hread : (Files.read path : StateM Session _) ⟨d, []⟩ = (d.read path, ⟨d, []⟩) := rfl
  cases hbytes : d.read path with
  | error cause =>
    rw [hbytes] at hread
    simp only [Disk.answer, PhraseFile.load, Files.readText, bind, StateT.bind, hread, pure]
    rfl
  | ok bytes =>
    rw [hbytes] at hread
    simp only [Disk.answer, PhraseFile.load, Files.readText, bind, StateT.bind, hread, pure]
    cases Text.decode? bytes <;> rfl

theorem phraseFile?_eq_some_iff :
    d.phraseFile? path = some file ↔
      ∃ bytes text, d.read path = .ok bytes ∧ Text.decode? bytes = some text ∧
        PhraseFile.parse path text = .ok file := by
  rw [Disk.phraseFile?, answer_load]
  cases d.read path with
  | error cause => simp [Except.toOption]
  | ok bytes =>
    cases htext : Text.decode? bytes with
    | none => simp [htext, Except.toOption]
    | some text =>
      cases hparse : PhraseFile.parse path text <;>
        simp [htext, hparse, Except.toOption, Except.mapError]

theorem phraseFile?_of_loadFile {wrap : LoadError → CommandError}
    (h : d.outcome (Project.loadFile wrap path) = .ok file) : d.phraseFile? path = some file := by
  have hload := Looks.of_lift_bind (looks_load path) (Disk.yields_of_outcome h)
  rw [Disk.phraseFile?]
  cases hanswer : d.answer (PhraseFile.load path) with
  | ok found =>
    rw [hanswer] at hload
    obtain ⟨remarks, hfound⟩ := hload
    cases hfound
    rfl
  | error e =>
    rw [hanswer] at hload
    obtain ⟨remarks, hfound⟩ := hload
    cases hfound

theorem path_of_phraseFile? (h : d.phraseFile? path = some file) : file.path = path := by
  obtain ⟨bytes, text, -, -, hparse⟩ := phraseFile?_eq_some_iff.mp h
  rw [PhraseFile.parse] at hparse
  split at hparse
  · cases hparse
  · cases hparse
    rfl

theorem isFile_of_phraseFile? (h : d.phraseFile? path = some file) : d.isFile path := by
  obtain ⟨bytes, text, hread, -⟩ := phraseFile?_eq_some_iff.mp h
  obtain ⟨place, hlocate, hfile⟩ := Disk.read_eq_ok_iff.mp hread
  rw [Disk.isFile_iff]
  exact ⟨place, hlocate, by rw [Disk.hasFile, hfile]; rfl⟩

/-- The tree that is read depends on the place alone, not on the path to it. -/
theorem tree_of_locate_eq {other : String} {found : PhraseFile}
    (hsame : d.locate path = d.locate other) (h : d.phraseFile? path = some file)
    (hfound : d.phraseFile? other = some found) : file.tree = found.tree := by
  obtain ⟨bytes, text, hread, hdecode, hparse⟩ := phraseFile?_eq_some_iff.mp h
  obtain ⟨bytes', text', hread', hdecode', hparse'⟩ := phraseFile?_eq_some_iff.mp hfound
  have hbytes : d.read path = d.read other := by rw [Disk.read, Disk.read, hsame]
  rw [hbytes, hread'] at hread
  cases hread
  rw [hdecode'] at hdecode
  cases hdecode
  rw [PhraseFile.parse] at hparse hparse'
  split at hparse
  · cases hparse
  · rename_i tree htree
    rw [htree] at hparse'
    cases hparse
    cases hparse'
    rfl

/-- Whether a path is that of a locale file, of one of the wanted locales: a phrase file in the
directory of the locale files that is not the canonical file. -/
structure Project.IsLocaleFile (p : Project) (d : Disk) (wanted : List String) (path : String) :
    Prop where
  listed : ∃ siblings name kind, d.list p.stringsDir = .ok siblings ∧ (name, kind) ∈ siblings ∧
    path = FilePath.join p.stringsDir name
  extension : FilePath.extension? path = some phraseExtension
  isFile : d.isFile path
  other : d.answer (p.isInputFile path) = false
  wanted : isLocale wanted path

theorem answer_isPhraseFile (path : String) :
    d.answer (Project.isPhraseFile path) =
      (FilePath.extension? path = some phraseExtension && d.isFile path) := by
  rw [Project.isPhraseFile]
  split_ifs with hextension
  · simp only [hextension, decide_true, Bool.true_and]
    rfl
  · simp only [hextension, decide_false, Bool.false_and]
    rfl

theorem mem_phraseFiles {directory : String} {paths : List String}
    (h : d.outcome (Project.phraseFiles directory) = .ok paths) (path : String) :
    path ∈ paths ↔
      (∃ siblings name kind, d.list directory = .ok siblings ∧ (name, kind) ∈ siblings ∧
        path = FilePath.join directory name) ∧
      FilePath.extension? path = some phraseExtension ∧ d.isFile path := by
  have hlist := Looks.of_lift_bind (looks_list directory) (Disk.yields_of_outcome h)
  have hanswer : d.answer (Files.list directory) = d.list directory := rfl
  cases hsiblings : d.list directory with
  | error cause =>
    rw [hanswer, hsiblings] at hlist
    obtain ⟨remarks, hfound⟩ := hlist
    cases hfound
  | ok siblings =>
    rw [hanswer, hsiblings] at hlist
    have hpaths := Looks.outcome_of_yields (.lift (.filterM looks_isPhraseFile _)) hlist
    rw [Looks.outcome_lift, Looks.answer_filterM looks_isPhraseFile] at hpaths
    rw [← Except.ok.inj hpaths, List.mem_filter, answer_isPhraseFile, Bool.and_eq_true, decide_eq_true_iff,
      List.mem_map]
    refine and_congr_left fun _ => ?_
    constructor
    · rintro ⟨name, hname, rfl⟩
      obtain ⟨⟨name, kind⟩, hsibling, rfl⟩ := List.mem_map.mp (List.mem_mergeSort.mp hname)
      exact ⟨siblings, name, kind, rfl, hsibling, rfl⟩
    · rintro ⟨listed, name, kind, hlisted, hsibling, rfl⟩
      cases hlisted
      exact ⟨name, List.mem_mergeSort.mpr (List.mem_map.mpr ⟨_, hsibling, rfl⟩), rfl⟩

theorem answer_isOther (p : Project) (path : String) :
    d.answer (do return !(← p.isInputFile path)) = !d.answer (p.isInputFile path) :=
  Looks.answer_bind (looks_isInputFile p path) (.pure _)

theorem mem_localeFiles {wanted paths : List String}
    (h : d.outcome (p.localeFiles wanted) = .ok paths) (path : String) :
    path ∈ paths ↔ p.IsLocaleFile d wanted path := by
  obtain ⟨found, hfound, h⟩ := Looks.of_bind (looks_phraseFiles _) (Disk.yields_of_outcome h)
  obtain ⟨remarks, h⟩ := Looks.of_lift_bind (.filterM (looks_isOther p) found) h
  rw [Looks.answer_filterM (looks_isOther p)] at h
  cases h
  rw [List.mem_filter, List.mem_filter, mem_phraseFiles hfound, answer_isOther]
  constructor
  · rintro ⟨⟨⟨hlisted, hextension, hfile⟩, hother⟩, hwanted⟩
    exact ⟨hlisted, hextension, hfile, by simpa using hother, hwanted⟩
  · intro hlocale
    refine ⟨⟨⟨hlocale.listed, hlocale.extension, hlocale.isFile⟩, ?_⟩, hlocale.wanted⟩
    simp [hlocale.other]

theorem isSome_fileName? {extension : String} (h : FilePath.extension? path = some extension) :
    (FilePath.fileName? path).isSome := by
  rw [FilePath.extension?] at h
  obtain ⟨name, hname, -⟩ := Option.bind_eq_some_iff.mp h
  rw [hname]
  rfl

theorem isBaseFile_congr {other : String} (h : FilePath.fileName? path = FilePath.fileName? other) :
    p.isBaseFile path = p.isBaseFile other := by
  rw [Project.isBaseFile, Project.isBaseFile, h]

theorem isLocale_congr {other : String} (wanted : List String)
    (h : FilePath.fileName? path = FilePath.fileName? other) :
    isLocale wanted path = isLocale wanted other := by
  rw [isLocale, isLocale, FilePath.fileStem?, FilePath.fileStem?, h]

theorem answer_isInputFile {a b : String} (ha : d.canonical path = .ok a)
    (hb : d.canonical p.inputFile = .ok b) : d.answer (p.isInputFile path) = decide (a = b) := by
  have hmine : (Files.canonical path : StateM Session _) ⟨d, []⟩ = (.ok a, ⟨d, []⟩) := by
    rw [← ha]
    rfl
  have hinput : (Files.canonical p.inputFile : StateM Session _) ⟨d, []⟩ = (.ok b, ⟨d, []⟩) := by
    rw [← hb]
    rfl
  simp only [Disk.answer, Project.isInputFile, bind, StateT.bind, hmine, hinput]
  rfl

/-- Whether all locale files in the place that a path leads to have the name in which the path ends.
A locale file that is a link to a file of another name breaks this. -/
def Project.SoleName (p : Project) (d : Disk) (path : String) : Prop :=
  ∀ ⦃wanted : List String⦄ ⦃locale : String⦄ ⦃place : Place⦄, p.IsLocaleFile d wanted locale →
    d.locate locale = .ok place → d.locate path = .ok place →
    FilePath.fileName? locale = FilePath.fileName? path

/-- Where there are no links, every file has its own name only. -/
theorem Project.soleName_of_unlinked (h : d.Unlinked) (hname : (FilePath.fileName? path).isSome) :
    p.SoleName d path := by
  intro wanted locale place hlocale hlocate hpath
  obtain ⟨name, hname⟩ := Option.isSome_iff_exists.mp hname
  obtain ⟨own, hown⟩ := Option.isSome_iff_exists.mp (isSome_fileName? hlocale.extension)
  have hlast := h.getLast?_of_locate hname hpath
  rw [h.getLast?_of_locate hown hlocate] at hlast
  rw [hname, hown, hlast]

namespace Project.IsLocaleFile

variable {wanted : List String}

/-- A locale file is not in the place of the canonical file. -/
theorem locate_inputFile_ne (h : p.IsLocaleFile d wanted path) (hpath : d.locate path = .ok place) :
    d.locate p.inputFile ≠ .ok place := by
  intro hinput
  obtain ⟨found, hfound, hfile⟩ := Disk.isFile_iff.mp h.isFile
  rw [hpath] at hfound
  cases hfound
  have hother := answer_isInputFile (Disk.canonical_of_hasFile hpath hfile)
    (Disk.canonical_of_hasFile hinput hfile)
  rw [h.other] at hother
  simp at hother

/-- Nor is it in the place of a file that is not wanted. -/
theorem locate_unwanted_ne {other : String} (h : p.IsLocaleFile d wanted path)
    (hsole : p.SoleName d other) (hunwanted : isLocale wanted other = false)
    (hpath : d.locate path = .ok place) : d.locate other ≠ .ok place := by
  intro hother
  have hwanted := h.wanted
  rw [isLocale_congr _ (hsole h hpath hother), hunwanted] at hwanted
  cases hwanted

/-- Nor in that of a base file. -/
theorem locate_baseFile_ne {other : String} (h : p.IsLocaleFile d wanted path)
    (hpath : d.locate path = .ok place) (hsole : p.SoleName d other) (hbase : p.isBaseFile other)
    (hown : p.isBaseFile path = false) : d.locate other ≠ .ok place := by
  intro hother
  rw [isBaseFile_congr (hsole h hpath hother), hbase] at hown
  cases hown

end Project.IsLocaleFile

/-- All the files are loaded, or none. -/
theorem of_loadLocales {paths : List String} {files : List PhraseFile}
    (h : d.outcome (Project.loadLocales paths) = .ok files) :
    (∀ path ∈ paths, (d.phraseFile? path).isSome) ∧
      ∀ file ∈ files, file.path ∈ paths ∧ d.phraseFile? file.path = some file := by
  have hload := Looks.of_mapM (looks_loadFile .loadLocale) (Disk.yields_of_outcome h)
  clear h
  induction hload with
  | nil => simp
  | @cons path file paths files hfile _ ih =>
    have hfile := phraseFile?_of_loadFile hfile
    obtain rfl := path_of_phraseFile? hfile
    refine ⟨List.forall_mem_cons.mpr ⟨by rw [hfile]; rfl, ih.1⟩,
      List.forall_mem_cons.mpr ⟨⟨List.mem_cons_self, hfile⟩, fun found hfound => ?_⟩⟩
    exact ⟨List.mem_cons_of_mem _ (ih.2 found hfound).1, (ih.2 found hfound).2⟩

end Phrasebook
