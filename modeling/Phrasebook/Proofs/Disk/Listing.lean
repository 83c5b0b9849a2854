import Mathlib.Data.List.Nodup
import Phrasebook.Proofs.Disk.Places
import Phrasebook.Proofs.Json.Reading

/-!
Disks that hold the same and list it in different orders. Every path leads to the same place on both
of them, and every directory has the same names.
-/
namespace Phrasebook

/-- Whether a text stays a single name where it is put behind a path. -/
def FilePath.IsName (text : String) : Prop :=
  text ≠ "" ∧ '/' ∉ text.toList

instance : DecidablePred FilePath.IsName := fun text =>
  inferInstanceAs (Decidable (text ≠ "" ∧ '/' ∉ text.toList))

namespace Disk

variable {d e : Disk} {place : Place} {sibling : String × FileKind}

/-- Whether a disk is as disks are: no place is taken twice, and places are reached by names. -/
structure Proper (d : Disk) : Prop where
  unique : Assoc.Unique d.entries
  named : ∀ entry ∈ d.entries, ∀ name ∈ entry.1, FilePath.IsName name

theorem nameIn?_eq_some_iff {inner : Place} {name : String} :
    nameIn? place inner = some name ↔ inner = place ++ [name] := by
  rw [nameIn?]
  constructor
  · intro h
    split_ifs at h with hinner
    obtain ⟨front, rfl⟩ := List.getLast?_eq_some_iff.mp h
    simpa using hinner.2
  · rintro rfl
    simp

theorem map_fst_listing (d : Disk) (place : Place) :
    (d.listing place).map Prod.fst = (d.entries.map Prod.fst).filterMap (nameIn? place) := by
  rw [listing, List.map_filterMap, List.filterMap_map]
  congr 1
  funext entry
  rw [Option.map_map]
  exact Option.map_id'

theorem exists_entry_of_mem_listing (h : sibling ∈ d.listing place) :
    ∃ entry ∈ d.entries, entry.1 = place ++ [sibling.1] := by
  obtain ⟨entry, hentry, hsibling⟩ := List.mem_filterMap.mp h
  obtain ⟨name, hname, rfl⟩ := Option.map_eq_some_iff.mp hsibling
  exact ⟨entry, hentry, nameIn?_eq_some_iff.mp hname⟩

theorem nodup_listing (h : d.Proper) (place : Place) :
    ((d.listing place).map Prod.fst).Nodup := by
  rw [map_fst_listing]
  refine List.Nodup.filterMap ?_ h.unique
  intro a b name ha hb
  rw [nameIn?_eq_some_iff.mp ha, nameIn?_eq_some_iff.mp hb]

theorem Proper.of_mem_listing (h : d.Proper) (hsibling : sibling ∈ d.listing place) :
    FilePath.IsName sibling.1 := by
  obtain ⟨entry, hentry, hplace⟩ := exists_entry_of_mem_listing hsibling
  apply h.named entry hentry
  rw [hplace]
  simp

/-- What is in the directory at a path. There is nothing if it cannot be listed. -/
def children (d : Disk) (path : String) : List (String × FileKind) :=
  match d.list path with
  | .ok siblings => siblings
  | .error _ => []

theorem children_eq (d : Disk) (path : String) :
    d.children path = [] ∨ ∃ place, d.locate path = .ok place ∧
      d.list path = .ok (d.listing place) ∧ d.children path = d.listing place := by
  rw [children, list]
  cases hlocate : d.locate path with
  | error cause => exact .inl rfl
  | ok place =>
    by_cases hdirectory : d.hasDirectory place
    · exact .inr ⟨place, rfl, by simp [hdirectory], by simp [hdirectory]⟩
    · simp [hdirectory]

theorem nodup_children (h : d.Proper) (path : String) :
    ((d.children path).map Prod.fst).Nodup := by
  rcases d.children_eq path with hnone | ⟨place, -, -, hlisting⟩
  · simp [hnone]
  · rw [hlisting]
    exact nodup_listing h place

theorem Proper.of_mem_children (h : d.Proper) {path : String}
    (hsibling : sibling ∈ d.children path) : FilePath.IsName sibling.1 := by
  rcases d.children_eq path with hnone | ⟨place, -, -, hlisting⟩
  · simp [hnone] at hsibling
  · rw [hlisting] at hsibling
    exact h.of_mem_listing hsibling

/-- Whether two disks hold the same. They may list it in different orders. -/
structure Relisted (d e : Disk) : Prop where
  current : e.current = d.current
  entries : e.entries.Perm d.entries

def reversed (d : Disk) : Disk :=
  { d with entries := d.entries.reverse }

theorem relisted_reversed (d : Disk) : d.Relisted d.reversed :=
  ⟨rfl, d.entries.reverse_perm⟩

namespace Relisted

variable (h : d.Relisted e) (hd : d.Proper)
include h hd

theorem item? (place : Place) : e.item? place = d.item? place := by
  have he : Assoc.Unique e.entries := (h.entries.map Prod.fst).nodup_iff.mpr hd.unique
  have hlookup : e.entries.lookup place = d.entries.lookup place := by
    apply Option.ext
    intro entry
    rw [← Assoc.mem_iff_lookup he, ← Assoc.mem_iff_lookup hd.unique]
    exact h.entries.mem_iff
  rw [Disk.item?, Disk.item?, hlookup]

theorem file? (place : Place) : e.file? place = d.file? place := by
  rw [Disk.file?, Disk.file?, h.item? hd]

theorem sameNames : SameNames d e where
  current := h.current
  directory place := by rw [hasDirectory, hasDirectory, h.item? hd]
  file place := by rw [hasFile, hasFile, h.file? hd]
  link place := by rw [link?, link?, h.item? hd]

theorem locate (path : String) : e.locate path = d.locate path :=
  (h.sameNames hd).locate path

theorem read (path : String) : e.read path = d.read path := by
  rw [Disk.read, Disk.read, h.locate hd]
  simp only [h.file? hd, (h.sameNames hd).directory]

theorem kind? (path : String) : e.kind? path = d.kind? path := by
  rw [Disk.kind?, Disk.kind?, h.locate hd]
  simp only [h.item? hd]

theorem isDirectory (path : String) : e.isDirectory path = d.isDirectory path := by
  rw [Disk.isDirectory, Disk.isDirectory, h.kind? hd]

theorem isLink (path : String) : e.isLink path = d.isLink path := by
  rw [Disk.isLink, Disk.isLink, h.current, (h.sameNames hd).follow]
  simp only [(h.sameNames hd).link]

theorem ownKind (path : String) : e.ownKind path = d.ownKind path := by
  rw [Disk.ownKind, Disk.ownKind, h.isLink hd, h.locate hd]
  simp only [h.item? hd]

theorem canonical (path : String) : e.canonical path = d.canonical path := by
  rw [Disk.canonical, Disk.canonical, h.locate hd]
  simp only [h.item? hd]

/-- Writing does the same to both. -/
theorem write (path : String) (bytes : Text.Bytes) :
    (∃ place, d.write path bytes = .ok (d.put place bytes) ∧
        e.write path bytes = .ok (e.put place bytes)) ∨
      ∃ cause, d.write path bytes = .error cause ∧ e.write path bytes = .error cause := by
  rw [Disk.write, Disk.write, h.locate hd]
  cases d.locate path with
  | error cause => exact .inr ⟨cause, rfl, rfl⟩
  | ok place =>
    dsimp only
    rw [(h.sameNames hd).directory]
    split_ifs
    · exact .inr ⟨_, rfl, rfl⟩
    · exact .inr ⟨_, rfl, rfl⟩
    · exact .inl ⟨place, rfl, rfl⟩

theorem file?_put (place other : Place) (bytes : Text.Bytes) :
    (e.put place bytes).file? other = (d.put place bytes).file? other := by
  by_cases heq : place = other
  · subst heq
    rw [Disk.file?, Disk.file?, Disk.item?, Disk.item?, put, put, Assoc.lookup_put,
      Assoc.lookup_put]
    simp
  · rw [Disk.file?, Disk.file?, item?_put_of_ne heq, item?_put_of_ne heq, h.item? hd]

omit hd in
theorem perm_listing (place : Place) : (e.listing place).Perm (d.listing place) :=
  h.entries.filterMap _

/-- A directory can be listed on both or on neither. -/
theorem list_cases (path : String) :
    (∃ cause, e.list path = .error cause ∧ d.list path = .error cause) ∨
      ∃ listed siblings, e.list path = .ok listed ∧ d.list path = .ok siblings ∧
        listed.Perm siblings := by
  rw [list, list, h.locate hd]
  cases d.locate path with
  | error cause => exact .inl ⟨cause, rfl, rfl⟩
  | ok place =>
    dsimp only
    rw [(h.sameNames hd).directory, stepError, stepError, (h.sameNames hd).file]
    split_ifs
    · exact .inr ⟨_, _, rfl, rfl, h.perm_listing place⟩
    · exact .inl ⟨_, rfl, rfl⟩
    · exact .inl ⟨_, rfl, rfl⟩

theorem perm_children (path : String) : (e.children path).Perm (d.children path) := by
  rw [children, children]
  rcases h.list_cases hd path with ⟨cause, he, hd⟩ | ⟨listed, siblings, he, hd, hperm⟩
  · rw [he, hd]
  · rw [he, hd]
    exact hperm

end Relisted

theorem children_reversed (hd : d.Proper) (path : String) :
    d.reversed.children path = (d.children path).reverse := by
  have hsame := d.relisted_reversed.sameNames hd
  rw [children, children, list, list, d.relisted_reversed.locate hd]
  cases d.locate path with
  | error cause => rfl
  | ok place =>
    dsimp only
    rw [hsame.directory]
    split_ifs
    · exact List.filterMap_reverse
    · rfl

end Disk
end Phrasebook
