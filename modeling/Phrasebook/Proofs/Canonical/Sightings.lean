import Phrasebook.Proofs.Canonical.Scanning
import Phrasebook.Proofs.FirstSeen
import Phrasebook.Proofs.Tree.Entries

/-!
The keys recorded from sightings. They stand in the order they are first seen, and a key is plural
when any sighting of it is, so the order of the sightings decides the order of the keys only.
-/
namespace Phrasebook

namespace KeyTable

variable {sightings : List (String × Bool)} {key : String}

def Sighted (sightings : List (String × Bool)) (key : String) : Prop :=
  ∃ s ∈ sightings, recordedKey s.1 = key

def SightedPlural (sightings : List (String × Bool)) (key : String) : Prop :=
  ∃ s ∈ sightings, recordedKey s.1 = key ∧ s.2

instance (sightings : List (String × Bool)) (key : String) : Decidable (Sighted sightings key) :=
  inferInstanceAs (Decidable (∃ s ∈ sightings, recordedKey s.1 = key))

instance (sightings : List (String × Bool)) (key : String) :
    Decidable (SightedPlural sightings key) :=
  inferInstanceAs (Decidable (∃ s ∈ sightings, recordedKey s.1 = key ∧ s.2))

theorem SightedPlural.sighted (h : SightedPlural sightings key) : Sighted sightings key := by
  obtain ⟨s, hs, hkey, -⟩ := h
  exact ⟨s, hs, hkey⟩

theorem sighted_append_singleton {s : String × Bool} :
    Sighted (sightings ++ [s]) key ↔ Sighted sightings key ∨ recordedKey s.1 = key := by
  simp [Sighted, or_and_right, exists_or]

theorem sightedPlural_append_singleton {s : String × Bool} :
    SightedPlural (sightings ++ [s]) key ↔
      SightedPlural sightings key ∨ recordedKey s.1 = key ∧ s.2 := by
  simp [SightedPlural, or_and_right, exists_or]

theorem recordAll_append_singleton (table : KeyTable) (s : String × Bool) :
    table.recordAll (sightings ++ [s]) = (table.recordAll sightings).record s.1 s.2 := by
  rw [recordAll, recordAll, List.foldl_append]
  rfl

/-- The keys are the distinct ones of the sightings in the order they are first seen. -/
theorem map_fst_recordAll (sightings : List (String × Bool)) :
    (empty.recordAll sightings).keys.map Prod.fst =
      (sightings.map fun s => recordedKey s.1).eraseDups := by
  induction sightings using List.reverseRecOn with
  | nil => rfl
  | append_singleton sightings s ih =>
    rw [recordAll_append_singleton, record, Assoc.update, Assoc.map_fst_put, ih, List.map_append,
      List.map_singleton, eraseDups_append_singleton]
    simp only [List.mem_eraseDups]

theorem unique_recordAll (sightings : List (String × Bool)) :
    Assoc.Unique (empty.recordAll sightings).keys := by
  rw [Assoc.Unique, map_fst_recordAll]
  exact nodup_eraseDups _

theorem lookup_record (table : KeyTable) (s : String × Bool) (key : String) :
    (table.record s.1 s.2).keys.lookup key =
      if recordedKey s.1 = key then some ((table.keys.lookup key).getD false || s.2)
      else table.keys.lookup key := by
  rw [record, Assoc.update, Assoc.lookup_put]
  split_ifs with hkey
  · rw [hkey]
  · rfl

theorem lookup_recordAll (sightings : List (String × Bool)) (key : String) :
    (empty.recordAll sightings).keys.lookup key =
      if Sighted sightings key then some (decide (SightedPlural sightings key)) else none := by
  induction sightings using List.reverseRecOn with
  | nil => rfl
  | append_singleton sightings s ih =>
    rw [recordAll_append_singleton, lookup_record, ih]
    simp only [sighted_append_singleton, sightedPlural_append_singleton]
    by_cases hkey : recordedKey s.1 = key
    · by_cases hsighted : Sighted sightings key
      · simp [hkey, hsighted]
      · have hplural : ¬SightedPlural sightings key := fun h => hsighted h.sighted
        simp [hkey, hsighted, hplural]
    · simp [hkey]

theorem mem_keys_recordAll {plural : Bool} :
    (key, plural) ∈ (empty.recordAll sightings).keys ↔
      Sighted sightings key ∧ plural = decide (SightedPlural sightings key) := by
  rw [Assoc.mem_iff_lookup (unique_recordAll sightings), lookup_recordAll]
  split_ifs with hsighted
  · simp [hsighted, eq_comm]
  · simp [hsighted]

/-- Sightings in another order give the same keys in another order. -/
theorem perm_recordAll {more : List (String × Bool)} (h : sightings.Perm more) :
    (empty.recordAll sightings).keys.Perm (empty.recordAll more).keys := by
  have hnodup (l : List (String × Bool)) : (empty.recordAll l).keys.Nodup :=
    List.Nodup.of_map Prod.fst (unique_recordAll l)
  refine (List.perm_ext_iff_of_nodup (hnodup sightings) (hnodup more)).mpr ?_
  rintro ⟨key, plural⟩
  have hsighted : Sighted sightings key ↔ Sighted more key := by simp only [Sighted, h.mem_iff]
  have hplural : SightedPlural sightings key ↔ SightedPlural more key := by
    simp only [SightedPlural, h.mem_iff]
  simp only [mem_keys_recordAll, hsighted, hplural]

end KeyTable

/-- Every call of a scan has its key recorded. -/
theorem exists_entry_of_call {scan : Scan} {e : Extraction} {call : Call} (he : .ok e ∈ scan)
    (hcall : call ∈ e.calls) : ∃ plural, (recordedKey call.key, plural) ∈ scan.table.keys := by
  have hsighting : (call.key, call.isPlural) ∈ scan.extractions.flatMap Extraction.sightings :=
    List.mem_flatMap.mpr ⟨e, Scan.mem_extractions he, List.mem_map_of_mem hcall⟩
  exact ⟨_, KeyTable.mem_keys_recordAll.mpr ⟨⟨_, hsighting, rfl⟩, rfl⟩⟩

end Phrasebook
