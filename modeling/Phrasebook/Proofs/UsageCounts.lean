import Mathlib.Algebra.BigOperators.Group.List.Lemmas
import Mathlib.Algebra.Ring.Nat
import Phrasebook.Proofs.FirstSeen
import Phrasebook.Proofs.Json.Reading
import Phrasebook.Proofs.StableSort
import Phrasebook.Usage

/-!
The usage index. A key is listed once, with the file of each of its calls, and the counts add up to
the number of calls.
-/
namespace Phrasebook

def callSites (extractions : List Extraction) : List (String × String) :=
  extractions.flatMap fun e => e.calls.map fun call => (call.key, e.file)

theorem length_callSites (extractions : List Extraction) :
    (callSites extractions).length = (extractions.map (·.calls.length)).sum := by
  simp [callSites, List.length_flatMap]

namespace UsageIndex

variable {sites : List (String × String)} {key : String}

def ofSites (sites : List (String × String)) : UsageIndex :=
  sites.foldl (fun index site => index.addCall site.2 site.1) empty

theorem ofExtractions_eq (extractions : List Extraction) :
    ofExtractions extractions = ofSites (callSites extractions) := by
  rw [ofSites, callSites, List.foldl_flatMap]
  simp only [List.foldl_map]
  rfl

theorem ofSites_append_singleton (sites : List (String × String)) (site : String × String) :
    ofSites (sites ++ [site]) = (ofSites sites).addCall site.2 site.1 := by
  rw [ofSites, List.foldl_append]
  rfl

theorem map_fst_ofSites (sites : List (String × String)) :
    (ofSites sites).usages.map Prod.fst = (sites.map Prod.fst).eraseDups := by
  induction sites using List.reverseRecOn with
  | nil => rfl
  | append_singleton sites site ih =>
    rw [ofSites_append_singleton, addCall, Assoc.update, Assoc.map_fst_put, ih, List.map_append,
      List.map_singleton, eraseDups_append_singleton]
    simp only [List.mem_eraseDups]

theorem consumers?_addCall (index : UsageIndex) (site : String × String) (key : String) :
    (index.addCall site.2 site.1).consumers? key =
      if site.1 = key then some ((index.consumers? key).getD [] ++ [site.2])
      else index.consumers? key := by
  rw [consumers?, addCall, Assoc.update, Assoc.lookup_put, consumers?]
  split_ifs with hkey
  · rw [hkey]
  · rfl

/-- The consumers of a key are the files of its calls in order. -/
theorem consumers?_ofSites (sites : List (String × String)) (key : String) :
    (ofSites sites).consumers? key =
      if key ∈ sites.map Prod.fst then some ((sites.filter (·.1 = key)).map Prod.snd)
      else none := by
  induction sites using List.reverseRecOn with
  | nil => rfl
  | append_singleton sites site ih =>
    rw [ofSites_append_singleton, consumers?_addCall, ih]
    by_cases hkey : site.1 = key
    · by_cases hseen : key ∈ sites.map Prod.fst
      · simp [hkey, hseen]
      · have hnone : sites.filter (·.1 = key) = [] := by
          refine List.filter_eq_nil_iff.mpr fun other hother heq => hseen ?_
          exact List.mem_map.mpr ⟨other, hother, by simpa using heq⟩
        simp [hkey, hseen, hnone]
    · have hother : key ≠ site.1 := fun heq => hkey heq.symm
      have hmem : key ∈ (sites ++ [site]).map Prod.fst ↔ key ∈ sites.map Prod.fst := by
        rw [List.map_append, List.mem_append]
        exact or_iff_left (by simpa using hother)
      simp only [hkey, hmem, if_false, List.filter_append]
      simp [hkey]

theorem counts_ofSites (sites : List (String × String)) :
    ((ofSites sites).usages.map fun (key, files) => (key, files.length)) =
      (sites.map Prod.fst).eraseDups.map fun key => (key, (sites.map Prod.fst).count key) := by
  have hunique : Assoc.Unique (ofSites sites).usages := by
    rw [Assoc.Unique, map_fst_ofSites]
    exact nodup_eraseDups _
  rw [← map_fst_ofSites, List.map_map]
  refine List.map_congr_left fun entry hentry => ?_
  obtain ⟨key, files⟩ := entry
  have hfiles : (ofSites sites).consumers? key = some files :=
    (Assoc.mem_iff_lookup hunique).mp hentry
  rw [consumers?_ofSites] at hfiles
  split_ifs at hfiles
  rw [← Option.some.inj hfiles]
  simp [List.count_eq_countP, List.countP_eq_length_filter, List.filter_map, Function.comp_def,
    beq_eq_decide]

theorem ranking_byCount : Ranking fun a b : String × Nat => decide (b.2 ≤ a.2) where
  trans a b c hab hbc := by
    rw [decide_eq_true_iff] at hab hbc ⊢
    omega
  total a b := by
    rw [Bool.or_eq_true, decide_eq_true_iff, decide_eq_true_iff]
    omega

theorem sum_counts (keys : List String) :
    ((keys.eraseDups.map fun key => (key, keys.count key)).map Prod.snd).sum = keys.length := by
  have hperm : keys.eraseDups.Perm keys.dedup := by
    refine (List.perm_ext_iff_of_nodup (nodup_eraseDups keys) keys.nodup_dedup).mpr fun key => ?_
    rw [List.mem_eraseDups, List.mem_dedup]
  rw [List.map_map]
  exact ((hperm.map _).sum_eq).trans (List.sum_map_count_dedup_eq_length keys)

/-- The index of some files lists each key that is called, once and as first seen. The consumers of
a key are the files of its calls in order. Sorted by count, the keys have their numbers of calls,
those with the same number stay as first seen, and the counts add up to the number of calls. -/
theorem usage_counts_add_up (extractions : List Extraction) :
    let index := ofExtractions extractions
    let sites := callSites extractions
    let keys := sites.map Prod.fst
    FirstSeen keys (index.usages.map Prod.fst) ∧
      (∀ key, index.consumers? key =
        if key ∈ keys then some ((sites.filter (·.1 = key)).map Prod.snd) else none) ∧
      index.byCount.Perm (keys.eraseDups.map fun key => (key, keys.count key)) ∧
      (index.byCount.Pairwise fun a b =>
        b.2 ≤ a.2 ∧ (a.2 = b.2 → keys.idxOf a.1 < keys.idxOf b.1)) ∧
      (index.byCount.map Prod.snd).sum = (extractions.map (·.calls.length)).sum := by
  intro index sites keys
  have hindex : index = ofSites sites := ofExtractions_eq extractions
  have hcounts : index.byCount =
      (keys.eraseDups.map fun key => (key, keys.count key)).mergeSort
        fun a b => decide (b.2 ≤ a.2) := by
    rw [byCount, hindex, counts_ofSites]
  have hperm : index.byCount.Perm (keys.eraseDups.map fun key => (key, keys.count key)) := by
    rw [hcounts]
    exact List.mergeSort_perm _ _
  refine ⟨?_, fun key => ?_, hperm, ?_, ?_⟩
  · rw [hindex, map_fst_ofSites]
    exact firstSeen_iff.mpr rfl
  · rw [hindex, consumers?_ofSites]
  · have hseen : (keys.eraseDups.map fun key => (key, keys.count key)).Pairwise fun a b =>
        keys.idxOf a.1 < keys.idxOf b.1 := List.pairwise_map.mpr (pairwise_idxOf_eraseDups keys)
    rw [hcounts]
    refine (ranking_byCount.pairwise_mergeSort_ties hseen).imp fun ⟨hle, hties⟩ => ?_
    exact ⟨of_decide_eq_true hle, fun heq => hties (decide_eq_true heq.le)⟩
  · rw [(hperm.map Prod.snd).sum_eq, sum_counts, ← length_callSites]
    exact List.length_map Prod.fst

end UsageIndex
end Phrasebook
