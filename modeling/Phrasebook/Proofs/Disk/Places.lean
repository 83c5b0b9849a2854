import Mathlib.Tactic.Common
import Phrasebook.Disk
import Phrasebook.Proofs.Json.Reading

/-!
Places on a disk. A write changes the contents of one place, and where there was a file before, every
path leads to the same place afterwards.
-/
namespace Phrasebook

namespace Disk

variable {d after : Disk} {path : String} {place : Place} {bytes : Text.Bytes}

theorem read_eq_ok_iff :
    d.read path = .ok bytes ↔ ∃ place, d.locate path = .ok place ∧ d.file? place = some bytes := by
  rw [read]
  cases d.locate path with
  | error e => simp
  | ok place =>
    cases hfile : d.file? place with
    | none => simp [hfile]
    | some found => simp [hfile]

theorem hasFile_iff : d.hasFile place ↔ ∃ bytes, d.item? place = some (.file bytes) := by
  rw [hasFile, file?]
  cases d.item? place with
  | none => simp
  | some entry => cases entry <;> simp

theorem hasDirectory_eq_false (hfile : d.hasFile place) : d.hasDirectory place = false := by
  obtain ⟨bytes, hentry⟩ := hasFile_iff.mp hfile
  simp [hasDirectory, hentry]

theorem isFile_iff : d.isFile path ↔ ∃ place, d.locate path = .ok place ∧ d.hasFile place := by
  rw [isFile, kind?, decide_eq_true_iff]
  cases d.locate path with
  | error e => simp
  | ok place =>
    simp only [hasFile, file?, Except.ok.injEq, exists_eq_left']
    cases d.item? place with
    | none => simp
    | some entry => cases entry <;> simp [DiskEntry.kind]

theorem follow_eq_followWith (links : Nat) :
    ∃ redirect, d.follow links = d.followWith redirect := by
  cases links with
  | zero => exact ⟨_, rfl⟩
  | succ links => exact ⟨_, rfl⟩

theorem canonical_of_hasFile (hplace : d.locate path = .ok place) (hfile : d.hasFile place) :
    d.canonical path = .ok ("/" ++ "/".intercalate place) := by
  obtain ⟨bytes, hentry⟩ := hasFile_iff.mp hfile
  rw [canonical, hplace]
  simp [hentry]

/-- A file that is there can be written. -/
theorem write_of_hasFile (hlocate : d.locate path = .ok place) (hfile : d.hasFile place)
    (bytes : Text.Bytes) : d.write path bytes = .ok (d.put place bytes) := by
  have hends : FilePath.endsInside path = false := by
    rw [locate] at hlocate
    split_ifs at hlocate
    split at hlocate
    · cases hlocate
    · split_ifs at hlocate with hinside
      cases hlocate
      simpa [hfile] using hinside
  have hslash : path.toList.getLast? ≠ some '/' := by
    intro hlast
    rw [← List.head?_reverse] at hlast
    rw [FilePath.endsInside] at hends
    split at hends
    · cases hends
    · cases hends
    · rename_i hnone _
      cases hreverse : path.toList.reverse with
      | nil => simp [hreverse] at hlast
      | cons c rest =>
        rw [hreverse, List.head?_cons] at hlast
        cases hlast
        exact hnone rest hreverse
  rw [write, hlocate]
  simp [hasDirectory_eq_false hfile, hends, hslash]

/-- What a write that succeeds does. -/
theorem write_eq_ok (h : d.write path bytes = .ok after) :
    ∃ place, d.locate path = .ok place ∧ d.hasDirectory place = false ∧
      after = d.put place bytes := by
  rw [write] at h
  split at h
  · cases h
  · rename_i place hlocate
    split_ifs at h with hinside hends
    cases h
    rw [not_or] at hinside
    exact ⟨place, hlocate, eq_false_of_ne_true hinside.1, rfl⟩

theorem item?_put (hplace : place ≠ []) (other : Place) (bytes : Text.Bytes) :
    (d.put place bytes).item? other = if place = other then some (.file bytes) else d.item? other := by
  rw [item?, item?, put, Assoc.lookup_put]
  by_cases hroot : other = []
  · subst hroot
    simp [hplace]
  · simp [hroot]

theorem item?_put_of_ne {other : Place} (hne : place ≠ other) (bytes : Text.Bytes) :
    (d.put place bytes).item? other = d.item? other := by
  rw [item?, item?, put, Assoc.lookup_put, if_neg hne]

structure SameNames (d after : Disk) : Prop where
  current : after.current = d.current
  directory (place : Place) : after.hasDirectory place = d.hasDirectory place
  file (place : Place) : after.hasFile place = d.hasFile place
  link (place : Place) : after.link? place = d.link? place

theorem SameNames.followWith (h : SameNames d after)
    (redirect : List FilePath.Component → Place → Except FileError Place)
    (components : List FilePath.Component) (start : Place) :
    after.followWith redirect components start = d.followWith redirect components start := by
  induction components generalizing start with
  | nil => rfl
  | cons component rest ih =>
    cases component <;> simp only [Disk.followWith, stepError, h.directory, h.file, h.link, ih]

theorem SameNames.follow (h : SameNames d after) (links : Nat) :
    after.follow links = d.follow links := by
  induction links with
  | zero =>
    funext components start
    exact h.followWith _ components start
  | succ links ih =>
    funext components start
    rw [Disk.follow, Disk.follow, ih]
    exact h.followWith _ components start

theorem SameNames.locate (h : SameNames d after) (path : String) :
    after.locate path = d.locate path := by
  rw [Disk.locate, Disk.locate, h.current, h.follow]
  simp only [h.file]

theorem SameNames.trans {last : Disk} (h : SameNames d after) (hlast : SameNames after last) :
    SameNames d last where
  current := hlast.current.trans h.current
  directory place := (hlast.directory place).trans (h.directory place)
  file place := (hlast.file place).trans (h.file place)
  link place := (hlast.link place).trans (h.link place)

theorem sameNames_put (hfile : d.hasFile place) (bytes : Text.Bytes) :
    SameNames d (d.put place bytes) := by
  obtain ⟨found, hfound⟩ := hasFile_iff.mp hfile
  have hplace : place ≠ [] := by
    rintro rfl
    cases hfound
  have hother (other : Place) : (d.put place bytes).item? other = d.item? other ∨
      d.item? other = some (.file found) ∧
        (d.put place bytes).item? other = some (.file bytes) := by
    rw [item?_put hplace]
    split_ifs with heq
    · subst heq
      exact .inr ⟨hfound, rfl⟩
    · exact .inl rfl
  refine ⟨rfl, fun other => ?_, fun other => ?_, fun other => ?_⟩
  · rcases hother other with hsame | ⟨hbefore, hafter⟩
    · rw [hasDirectory, hasDirectory, hsame]
    · simp [hasDirectory, hbefore, hafter]
  · rcases hother other with hsame | ⟨hbefore, hafter⟩
    · rw [hasFile, hasFile, file?, file?, hsame]
    · simp [hasFile, file?, hbefore, hafter]
  · rcases hother other with hsame | ⟨hbefore, hafter⟩
    · rw [link?, link?, hsame]
    · simp [link?, hbefore, hafter]

def Unlinked (d : Disk) : Prop :=
  ∀ entry ∈ d.entries, entry.2.kind ≠ .link

instance : DecidablePred Unlinked := fun d =>
  inferInstanceAs (Decidable (∀ entry ∈ d.entries, entry.2.kind ≠ .link))

theorem Unlinked.link?_eq_none (h : d.Unlinked) (place : Place) : d.link? place = none := by
  rw [link?]
  split
  · rename_i target hentry
    rw [item?] at hentry
    split_ifs at hentry
    · cases hentry
    · exact absurd rfl (h _ (Assoc.mem_of_lookup hentry))
  · rfl

def enter (place : Place) : FilePath.Component → Place
  | .root => []
  | .current => place
  | .parent => place.dropLast
  | .name text => place ++ [text]

section

variable {redirect : List FilePath.Component → Place → Except FileError Place}

theorem Unlinked.followWith_cons (h : d.Unlinked) (component : FilePath.Component)
    (rest : List FilePath.Component) (place : Place) :
    d.followWith redirect (component :: rest) place =
      if d.hasDirectory place then d.followWith redirect rest (enter place component)
      else .error (d.stepError place) := by
  cases component with
  | root => rfl
  | current => rfl
  | parent => rfl
  | name text => simp only [followWith, h.link?_eq_none, enter]

theorem Unlinked.getLast?_of_followWith (h : d.Unlinked) {front : List FilePath.Component}
    {name : String} {start : Place}
    (hfollow : d.followWith redirect (front ++ [.name name]) start = .ok place) :
    place.getLast? = some name := by
  induction front generalizing start with
  | nil =>
    rw [List.nil_append, h.followWith_cons] at hfollow
    split_ifs at hfollow
    cases hfollow
    simp [enter]
  | cons component front ih =>
    rw [List.cons_append, h.followWith_cons] at hfollow
    split_ifs at hfollow
    exact ih hfollow

end

/-- Where there are no links, a path that ends in a name leads to a place of that name. -/
theorem Unlinked.getLast?_of_locate {name : String} (h : d.Unlinked)
    (hname : FilePath.fileName? path = some name) (hlocate : d.locate path = .ok place) :
    place.getLast? = some name := by
  have hlast : (FilePath.components path).getLast? = some (.name name) := by
    rw [FilePath.fileName?] at hname
    split at hname
    · cases hname
      assumption
    · cases hname
  obtain ⟨front, hfront⟩ := List.getLast?_eq_some_iff.mp hlast
  obtain ⟨redirect, hredirect⟩ := follow_eq_followWith (d := d) maxLinks
  rw [locate] at hlocate
  split_ifs at hlocate
  rw [hfront, hredirect] at hlocate
  split at hlocate
  · cases hlocate
  · rename_i found hfollow
    split_ifs at hlocate
    cases hlocate
    exact h.getLast?_of_followWith hfollow

/-- Whether nothing has changed on a disk but at some places. -/
structure Frame (touched : Place → Prop) (d after : Disk) : Prop where
  current : after.current = d.current
  outside (place : Place) : ¬touched place → after.item? place = d.item? place

namespace Frame

variable {touched : Place → Prop} {last : Disk}

theorem refl (touched : Place → Prop) (d : Disk) : Frame touched d d :=
  ⟨rfl, fun _ _ => rfl⟩

theorem trans (h : Frame touched d after) (hlast : Frame touched after last) :
    Frame touched d last :=
  ⟨hlast.current.trans h.current,
    fun place hplace => (hlast.outside place hplace).trans (h.outside place hplace)⟩

theorem put (hplace : touched place) (bytes : Text.Bytes) : Frame touched d (d.put place bytes) := by
  refine ⟨rfl, fun other hother => ?_⟩
  have hne : place ≠ other := by
    rintro rfl
    exact hother hplace
  exact item?_put_of_ne hne bytes

theorem mono {more : Place → Prop} (h : Frame touched d after)
    (hmore : ∀ place, touched place → more place) : Frame more d after :=
  ⟨h.current, fun place hplace => h.outside place fun htouched => hplace (hmore place htouched)⟩

theorem file?_eq (h : Frame touched d after) (hplace : ¬touched place) :
    after.file? place = d.file? place := by
  rw [file?, file?, h.outside place hplace]

end Frame
end Disk
end Phrasebook
