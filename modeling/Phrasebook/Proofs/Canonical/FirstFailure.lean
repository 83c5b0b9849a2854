import Mathlib.Data.Finset.Card
import Phrasebook.Proofs.Canonical.Placement
import Phrasebook.Proofs.Canonical.Sightings

/-!
Which failure a generation reports. Files are taken in order and the calls of a file in order, so the
first file that fails decides, with its first call that does not fit. Keys are placed after that, in
the order they are first seen.
-/
namespace Phrasebook

variable {old : Tree} {separator : String} {scan : Scan}

theorem englishText?_eq_some_iff {key english : String} :
    englishText? old separator key = some english ↔
      ∃ value, old.getLeaf? (KeyPath.parse separator key) = some value ∧ value.primary ≠ "" ∧
        value.primary = english := by
  rw [englishText?, Option.filter_eq_some_iff]
  simp only [Option.map_eq_some_iff, Bool.not_eq_true', String.isEmpty_eq_false_iff]
  constructor
  · rintro ⟨⟨value, hvalue, rfl⟩, hne⟩
    exact ⟨value, hvalue, hne, rfl⟩
  · rintro ⟨value, hvalue, hne, rfl⟩
    exact ⟨⟨value, hvalue, rfl⟩, hne⟩

namespace Call

variable {call : Call} {fault : CallFault}

/-- A call whose arguments are checked, of a key that has an English text it does not fit. -/
structure RejectedWith (old : Tree) (separator : String) (call : Call) (fault : CallFault) :
    Prop where
  origin : call.origin = .script
  callee : call.callee = checkedFunction
  check : ∃ value, old.getLeaf? (KeyPath.parse separator call.key) = some value ∧
    value.primary ≠ "" ∧ call.check value.primary = .error fault

def Rejected (old : Tree) (separator : String) (call : Call) : Prop :=
  ∃ fault, call.RejectedWith old separator fault

theorem isChecked_iff : call.isChecked ↔ call.origin = .script ∧ call.callee = checkedFunction := by
  simp [isChecked]

theorem rejectedWith_iff : call.RejectedWith old separator fault ↔
    call.isChecked ∧ ∃ english, englishText? old separator call.key = some english ∧
      call.check english = .error fault := by
  simp only [isChecked_iff, englishText?_eq_some_iff]
  constructor
  · rintro ⟨horigin, hcallee, value, hvalue, hne, hcheck⟩
    exact ⟨⟨horigin, hcallee⟩, _, ⟨value, hvalue, hne, rfl⟩, hcheck⟩
  · rintro ⟨⟨horigin, hcallee⟩, _, ⟨value, hvalue, hne, rfl⟩, hcheck⟩
    exact ⟨horigin, hcallee, value, hvalue, hne, hcheck⟩

theorem checkIn_of_rejectedWith (h : call.RejectedWith old separator fault) :
    call.checkIn old separator = .error ⟨call.site, call.key, fault⟩ := by
  obtain ⟨hchecked, english, henglish, hcheck⟩ := rejectedWith_iff.mp h
  rw [checkIn, if_pos hchecked, henglish]
  simp only [hcheck]

theorem checkIn_eq_ok_iff : call.checkIn old separator = .ok () ↔ ¬call.Rejected old separator := by
  constructor
  · rintro hok ⟨fault, hrejected⟩
    rw [checkIn_of_rejectedWith hrejected] at hok
    cases hok
  · intro haccepted
    rw [checkIn]
    split_ifs with hchecked
    · cases henglish : englishText? old separator call.key with
      | none => rfl
      | some english =>
        cases hcheck : call.check english with
        | ok accepted => simp [hcheck]
        | error fault =>
          have hrejected := rejectedWith_iff.mpr ⟨hchecked, english, henglish, hcheck⟩
          exact absurd ⟨fault, hrejected⟩ haccepted
    · rfl

end Call

namespace Extraction

variable {e : Extraction}

theorem check_eq_ok_iff :
    e.check old separator = .ok () ↔ ∀ call ∈ e.calls, ¬call.Rejected old separator := by
  rw [check]
  induction e.calls with
  | nil => simp [pure, Except.pure]
  | cons call calls ih =>
    rw [List.forM, List.forall_mem_cons, ← ih, ← Call.checkIn_eq_ok_iff]
    cases call.checkIn old separator with
    | ok accepted => simp [bind, Except.bind]
    | error invalid => simp [bind, Except.bind]

/-- The first call that is rejected is reported, whatever the calls after it. -/
theorem check_of_first {before after : List Call} {call : Call} {fault : CallFault}
    (hcalls : e.calls = before ++ call :: after)
    (hbefore : ∀ other ∈ before, ¬other.Rejected old separator)
    (h : call.RejectedWith old separator fault) :
    e.check old separator = .error ⟨call.site, call.key, fault⟩ := by
  rw [check, hcalls]
  clear hcalls
  induction before with
  | nil =>
    rw [List.nil_append, List.forM, Call.checkIn_of_rejectedWith h]
    rfl
  | cons other before ih =>
    obtain ⟨hother, hbefore⟩ := List.forall_mem_cons.mp hbefore
    rw [List.cons_append, List.forM, Call.checkIn_eq_ok_iff.mpr hother]
    exact ih hbefore

end Extraction

namespace Scan

variable {item : Except ScanFailure Extraction} {error : GenerateError}

def Fails (old : Tree) (separator : String) : Except ScanFailure Extraction → Prop
  | .error _ => True
  | .ok e => ∃ call ∈ e.calls, call.Rejected old separator

/-- What a file fails with: that it could not be scanned, or its first call that is rejected. -/
inductive FailsWith (old : Tree) (separator : String) :
    Except ScanFailure Extraction → GenerateError → Prop
  | scan (failure : ScanFailure) : FailsWith old separator (.error failure) (.scan failure)
  | call {e : Extraction} {before after : List Call} {call : Call} {fault : CallFault}
    (hcalls : e.calls = before ++ call :: after)
    (hbefore : ∀ other ∈ before, ¬other.Rejected old separator)
    (hcall : call.RejectedWith old separator fault) :
    FailsWith old separator (.ok e) (.invalidCall ⟨call.site, call.key, fault⟩)

theorem Fails.exists_failsWith (h : Fails old separator item) :
    ∃ error, FailsWith old separator item error := by
  classical
  cases item with
  | error failure => exact ⟨_, .scan failure⟩
  | ok e =>
    obtain ⟨call, hcall, hrejected⟩ := h
    have hfound : (e.calls.find? fun call => decide (call.Rejected old separator)).isSome :=
      List.find?_isSome.mpr ⟨call, hcall, decide_eq_true hrejected⟩
    obtain ⟨first, hfirst⟩ := Option.isSome_iff_exists.mp hfound
    obtain ⟨hrejected, before, after, hcalls, hbefore⟩ := List.find?_eq_some_iff_append.mp hfirst
    obtain ⟨fault, hfault⟩ := of_decide_eq_true hrejected
    exact ⟨_, .call hcalls (by simpa using hbefore) hfault⟩

end Scan

theorem acceptScan_cons_of_not_fails {item : Except ScanFailure Extraction}
    (h : ¬Scan.Fails old separator item) :
    ∃ e, item = .ok e ∧ ∀ rest, acceptScan old separator (item :: rest) =
      (acceptScan old separator rest).map (e :: ·) := by
  cases item with
  | error failure => exact absurd trivial h
  | ok e =>
    have hcheck : e.check old separator = .ok () := by
      rw [Extraction.check_eq_ok_iff]
      exact fun call hcall hrejected => h ⟨call, hcall, hrejected⟩
    refine ⟨e, rfl, fun rest => ?_⟩
    rw [acceptScan, hcheck]

/-- The first file that fails stops a scan, whatever the files after it. -/
theorem acceptScan_of_first {before after : Scan} {item : Except ScanFailure Extraction}
    {error : GenerateError} (hbefore : ∀ other ∈ before, ¬Scan.Fails old separator other)
    (h : Scan.FailsWith old separator item error) :
    acceptScan old separator (before ++ item :: after) = .error error := by
  induction before with
  | nil =>
    cases h with
    | scan failure => rfl
    | call hcalls hfirst hcall =>
      rw [List.nil_append, acceptScan, Extraction.check_of_first hcalls hfirst hcall]
  | cons other before ih =>
    obtain ⟨hother, hbefore⟩ := List.forall_mem_cons.mp hbefore
    obtain ⟨e, -, hstep⟩ := acceptScan_cons_of_not_fails hother
    rw [List.cons_append, hstep, ih hbefore]
    rfl

theorem acceptScan_of_not_fails (h : ∀ item ∈ scan, ¬Scan.Fails old separator item) :
    acceptScan old separator scan = .ok scan.extractions := by
  induction scan with
  | nil => rfl
  | cons item scan ih =>
    obtain ⟨hitem, hscan⟩ := List.forall_mem_cons.mp h
    obtain ⟨e, rfl, hstep⟩ := acceptScan_cons_of_not_fails hitem
    rw [hstep, ih hscan]
    rfl

namespace KeyTable

variable {entries : List (String × Bool)} {error : Unplaced}

/-- Whether a key has something in its way after all the keys before it could be placed. -/
def FirstUnplaced (table : KeyTable) (old : Tree) (separator : String) (error : Unplaced) : Prop :=
  ∃ before entry after s segment found,
    table.keys = before ++ entry :: after ∧ build ⟨before⟩ old separator = .ok s ∧
      error = ⟨entry.1, .collision (pathOf separator entry) segment found⟩ ∧
      s.set (pathOf separator entry) (nodeOf old separator entry) = .error error.cause

theorem placeKey_eq_error_iff {s : Tree} {entry : String × Bool} :
    placeKey old separator s entry = .error error ↔ ∃ segment found,
      error = ⟨entry.1, .collision (pathOf separator entry) segment found⟩ ∧
        s.set (pathOf separator entry) (nodeOf old separator entry) = .error error.cause := by
  rw [nodeOf, pathOf]
  unfold placeKey
  cases hset : s.set (KeyPath.parse separator entry.1)
      (nodeFor old (KeyPath.parse separator entry.1) entry.1 entry.2) with
  | ok tree => simp [hset]
  | error cause =>
    obtain ⟨segment, found, rfl⟩ :=
      Tree.exists_collision_of_set (pathOf_ne_nil separator entry) hset
    simp only [hset]
    constructor
    · intro h
      cases h
      exact ⟨segment, found, rfl, rfl⟩
    · rintro ⟨_, _, rfl, h⟩
      cases h
      rfl

theorem build_snoc_eq_error_iff {entry : String × Bool} :
    build ⟨entries ++ [entry]⟩ old separator = .error error ↔
      build ⟨entries⟩ old separator = .error error ∨
        ∃ s, build ⟨entries⟩ old separator = .ok s ∧
          placeKey old separator s entry = .error error := by
  rw [build, List.foldlM_append, build]
  cases entries.foldlM (placeKey old separator) Tree.nil with
  | error e => simp [bind, Except.bind]
  | ok s =>
    simp only [List.foldlM_cons, List.foldlM_nil, Except.ok.injEq, exists_eq_left', bind, Except.bind]
    cases placeKey old separator s entry <;> simp [pure, Except.pure]

/-- Building fails with the first key that has something in its way. -/
theorem build_eq_error_iff :
    build ⟨entries⟩ old separator = .error error ↔
      FirstUnplaced ⟨entries⟩ old separator error := by
  constructor
  · intro h
    induction entries using List.reverseRecOn with
    | nil => cases h
    | append_singleton entries last ih =>
      rcases build_snoc_eq_error_iff.mp h with hbefore | ⟨s, hs, hlast⟩
      · obtain ⟨before, entry, after, s, segment, found, hentries, hplaced⟩ := ih hbefore
        refine ⟨before, entry, after ++ [last], s, segment, found, ?_, hplaced⟩
        change entries = before ++ entry :: after at hentries
        simp [hentries]
      · obtain ⟨segment, found, herror, hset⟩ := placeKey_eq_error_iff.mp hlast
        exact ⟨entries, last, [], s, segment, found, rfl, hs, herror, hset⟩
  · rintro ⟨before, entry, after, s, segment, found, hentries, hs, herror, hset⟩
    change entries = before ++ entry :: after at hentries
    have hplace := placeKey_eq_error_iff.mpr ⟨segment, found, herror, hset⟩
    change before.foldlM (placeKey old separator) Tree.nil = .ok s at hs
    rw [build, hentries, List.foldlM_append, hs]
    change (entry :: after).foldlM (placeKey old separator) s = .error error
    rw [List.foldlM_cons, hplace]
    rfl

end KeyTable

theorem Extraction.length_keys (e : Extraction) :
    e.keys.length = (e.calls.map Call.key).toFinset.card := by
  have hsame : (e.calls.map Call.key).toFinset = e.keys.toFinset := by
    ext key
    simp [Extraction.keys]
  have hnodup : e.keys.Nodup := nodup_eraseDups _
  rw [hsame, List.toFinset_card_of_nodup hnodup]

/-- The keys of a scan stand in the order in which its calls first refer to them. -/
theorem Scan.map_fst_table (scan : Scan) :
    scan.table.keys.map Prod.fst =
      ((scan.extractions.flatMap Extraction.calls).map fun call =>
        recordedKey call.key).eraseDups := by
  rw [Scan.table, KeyTable.ofExtractions, KeyTable.map_fst_recordAll, List.map_flatMap,
    List.map_flatMap]
  simp only [Extraction.sightings, List.map_map]
  rfl

/-- A generation fails with the first file that fails, whatever comes after it. If none does, it
fails only with the first key that cannot be placed, and otherwise counts the keys of every file. -/
theorem generate_reports_first_failure (old : Tree) (scan : Scan) (separator : String) :
    (∀ before item after, scan = before ++ item :: after →
      (∀ other ∈ before, ¬Scan.Fails old separator other) → Scan.Fails old separator item →
        ∃ error, Scan.FailsWith old separator item error ∧
          ∀ later, generate old (before ++ item :: later) separator = .error error) ∧
    ((∀ item ∈ scan, ¬Scan.Fails old separator item) →
      ∃ extractions : List Extraction, scan = extractions.map .ok ∧
        (scan.table.keys.map Prod.fst =
          ((extractions.flatMap Extraction.calls).map fun call => recordedKey call.key).eraseDups) ∧
        (∀ error, generate old scan separator = .error error ↔
          ∃ unplaced, error = .unplaced unplaced ∧
            scan.table.FirstUnplaced old separator unplaced) ∧
        ∀ g, generate old scan separator = .ok g →
          g.files = extractions.map fun e => (e.file, (e.calls.map Call.key).toFinset.card)) := by
  constructor
  · rintro before item after rfl hbefore hitem
    obtain ⟨error, herror⟩ := hitem.exists_failsWith
    refine ⟨error, herror, fun later => ?_⟩
    rw [generate, acceptScan_of_first hbefore herror]
  · intro haccepted
    have haccept := acceptScan_of_not_fails haccepted
    obtain ⟨hscan, -⟩ := acceptScan_eq_ok_iff.mp haccept
    have htable (error : Unplaced) : scan.table.FirstUnplaced old separator error ↔
        (KeyTable.ofExtractions scan.extractions).build old separator = .error error :=
      KeyTable.build_eq_error_iff.symm
    refine ⟨scan.extractions, hscan, scan.map_fst_table, fun error => ?_, fun g hg => ?_⟩
    · simp only [htable]
      rw [generate, haccept]
      cases hbuild : (KeyTable.ofExtractions scan.extractions).build old separator with
      | error unplaced => simp [hbuild, eq_comm]
      | ok tree => simp [hbuild]
    · rw [generate, haccept] at hg
      simp only [← Extraction.length_keys]
      cases hbuild : (KeyTable.ofExtractions scan.extractions).build old separator with
      | error unplaced => simp [hbuild] at hg
      | ok tree =>
        simp only [hbuild, Except.ok.injEq] at hg
        rw [← hg]

/-- The second file has a call without its substitution, which is reported whatever follows. The first
file alone has keys that cannot both be placed. -/
theorem rejected_call_before_collision :
    let old : Tree := .leaf "a" (.text "Hello %(name)s") .nil
    let keys : Extraction := .declaring ["a|b", "a"]
    let call : Call := ⟨⟨"src/b.ts", 2, 1, ""⟩, "_t", "a", some ["count"], [], .script⟩
    let error : GenerateError := .invalidCall ⟨call.site, "a", .missingSubstitution "name" true⟩
    let collision : Unplaced := ⟨"a", .collision ["a"] "a" .subtree⟩
    (∀ later, generate old (.ok keys :: .ok ⟨"src/b.ts", [call], []⟩ :: later) "|" = .error error) ∧
      generate old [.ok keys] "|" = .error (.unplaced collision) ∧
      (Scan.table [.ok keys]).FirstUnplaced old "|" collision := by
  intro old keys call error collision
  have hkeys : ∀ item ∈ [Except.ok keys], ¬Scan.Fails old "|" item := by
    intro item hitem
    rw [List.mem_singleton.mp hitem]
    rintro ⟨other, hother, fault, hrejected⟩
    have hcallee : other.callee = "_td" := by
      obtain ⟨key, -, rfl⟩ := List.mem_map.mp hother
      rfl
    have hne : other.callee ≠ Call.checkedFunction := by
      rw [hcallee]
      decide
    exact hne hrejected.callee
  have hcheck : call.check "Hello %(name)s" = .error (.missingSubstitution "name" true) := by
    decide +kernel
  have hrejected : call.RejectedWith old "|" (.missingSubstitution "name" true) :=
    ⟨rfl, rfl, .text "Hello %(name)s", by decide, by decide, hcheck⟩
  have hfails : Scan.Fails old "|" (.ok ⟨"src/b.ts", [call], []⟩) :=
    ⟨call, List.mem_singleton_self call, _, hrejected⟩
  obtain ⟨found, hfound, hall⟩ :=
    (generate_reports_first_failure old _ "|").1 [.ok keys] _ [] rfl hkeys hfails
  have hfirst : generate old [.ok keys, .ok ⟨"src/b.ts", [call], []⟩] "|" = .error error := by
    decide +kernel
  have heq : found = error := Except.error.inj ((hall []).symm.trans hfirst)
  have hcollision : generate old [.ok keys] "|" = .error (.unplaced collision) := by decide +kernel
  obtain ⟨extractions, -, -, herrors, -⟩ :=
    (generate_reports_first_failure old [.ok keys] "|").2 hkeys
  obtain ⟨unplaced, hunplaced, hblocked⟩ := (herrors _).mp hcollision
  cases hunplaced
  exact ⟨fun later => heq ▸ hall later, hcollision, hblocked⟩

end Phrasebook
