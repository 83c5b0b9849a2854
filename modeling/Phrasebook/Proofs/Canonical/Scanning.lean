import Phrasebook.Generate
import Phrasebook.Proofs.Json.Reading

/-!
What a successful generation takes from its scan: every file, with calls that all fit.
-/
namespace Phrasebook
namespace Scan

def extractions (scan : Scan) : List Extraction :=
  scan.filterMap Except.toOption

def table (scan : Scan) : KeyTable :=
  .ofExtractions scan.extractions

@[simp] theorem extractions_map_ok (extractions : List Extraction) :
    Scan.extractions (extractions.map .ok) = extractions := by
  induction extractions with
  | nil => rfl
  | cons e extractions ih =>
    rw [Scan.extractions] at ih
    simp [Scan.extractions, Except.toOption, ih]

theorem mem_extractions {scan : Scan} {e : Extraction} (h : .ok e ∈ scan) :
    e ∈ scan.extractions :=
  List.mem_filterMap.mpr ⟨.ok e, h, rfl⟩

end Scan

def Extraction.declaring (keys : List String) : Extraction :=
  { file := "src/a.ts"
    calls := keys.map fun key => ⟨⟨"src/a.ts", 1, 1, ""⟩, "_td", key, none, [], .script⟩
    recovered := [] }

variable {old t : Tree} {separator : String} {scan : Scan}

/-- A scan is accepted when every file could be scanned and every call fits. -/
theorem acceptScan_eq_ok_iff {extractions : List Extraction} :
    acceptScan old separator scan = .ok extractions ↔
      scan = extractions.map .ok ∧ ∀ e ∈ extractions, e.check old separator = .ok () := by
  induction scan generalizing extractions with
  | nil => cases extractions <;> simp [acceptScan]
  | cons item scan ih =>
    cases item with
    | error failure => cases extractions <;> simp [acceptScan]
    | ok e =>
      rw [acceptScan]
      cases hcheck : e.check old separator with
      | error fault =>
        cases extractions with
        | nil => simp
        | cons f extractions =>
          refine iff_of_false (by simp) ?_
          rintro ⟨hscan, hall⟩
          obtain ⟨heq, -⟩ := List.cons.inj hscan
          cases heq
          rw [hall e (by simp)] at hcheck
          cases hcheck
      | ok accepted =>
        simp only [map_eq_ok_iff, ih]
        constructor
        · rintro ⟨rest, ⟨rfl, hall⟩, rfl⟩
          exact ⟨rfl, List.forall_mem_cons.mpr ⟨hcheck, hall⟩⟩
        · rintro ⟨hscan, hall⟩
          cases extractions with
          | nil => cases hscan
          | cons f extractions =>
            obtain ⟨heq, hrest⟩ := List.cons.inj hscan
            cases heq
            exact ⟨extractions, ⟨hrest, fun f hf => hall f (by simp [hf])⟩, rfl⟩

/-- A scan without failures is accepted, or it has an invalid call. -/
theorem acceptScan_map_ok (old : Tree) (separator : String) (extractions : List Extraction) :
    acceptScan old separator (extractions.map .ok) = .ok extractions ∨
      ∃ e, acceptScan old separator (extractions.map .ok) = .error (.invalidCall e) := by
  induction extractions with
  | nil => exact .inl rfl
  | cons e extractions ih =>
    rw [List.map_cons, acceptScan]
    cases e.check old separator with
    | error fault => exact .inr ⟨fault, rfl⟩
    | ok accepted =>
      rcases ih with hok | ⟨fault, herror⟩
      · exact .inl (by simp [hok, Except.map])
      · exact .inr ⟨fault, by simp [herror, Except.map]⟩

theorem exists_generate_iff :
    (∃ g, generate old scan separator = .ok g ∧ g.tree = t) ↔
      acceptScan old separator scan = .ok scan.extractions ∧
        scan.table.build old separator = .ok t := by
  rw [generate, Scan.table]
  cases haccept : acceptScan old separator scan with
  | error e => simp
  | ok extractions =>
    obtain ⟨rfl, -⟩ := acceptScan_eq_ok_iff.mp haccept
    rw [Scan.extractions_map_ok]
    cases hbuild : (KeyTable.ofExtractions extractions).build old separator with
    | error e => simp [hbuild]
    | ok tree => simp [hbuild]

theorem generate_eq_invalidCall_iff {e : InvalidCall} :
    generate old scan separator = .error (.invalidCall e) ↔
      acceptScan old separator scan = .error (.invalidCall e) := by
  rw [generate]
  cases acceptScan old separator scan with
  | error failure => simp
  | ok extractions =>
    cases hbuild : (KeyTable.ofExtractions extractions).build old separator with
    | error failure => simp [hbuild]
    | ok tree => simp [hbuild]

end Phrasebook
