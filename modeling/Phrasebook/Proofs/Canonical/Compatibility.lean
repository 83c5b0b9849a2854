import Mathlib.Data.List.Pairwise
import Phrasebook.Proofs.Canonical.Preservation
import Phrasebook.Proofs.Canonical.SecondRun
import Phrasebook.Proofs.Canonical.Sightings
import Phrasebook.Proofs.Tree.Alike
import Phrasebook.Proofs.Tree.Removal

/-!
Building the canonical tree from keys that do not get in the way of each other. No key can fail where
no path leads through another one; where the paths are all apart, each key holds its own node, and
the order of the keys decides the order of the entries only.
-/
namespace Phrasebook
namespace KeyPath

variable {paths more : List KeyPath} {p q : KeyPath}

/-- Whether no path leads through another one. -/
def Unnested (paths : List KeyPath) : Prop :=
  ∀ p ∈ paths, ∀ q ∈ paths, p <+: q → p = q

/-- Whether no path is equal to another one or leads through it. -/
def Apart (paths : List KeyPath) : Prop :=
  paths.Pairwise Incomparable

instance (paths : List KeyPath) : Decidable (Unnested paths) :=
  inferInstanceAs (Decidable (∀ p ∈ paths, ∀ q ∈ paths, p <+: q → p = q))

instance (paths : List KeyPath) : Decidable (Apart paths) :=
  inferInstanceAs (Decidable (paths.Pairwise Incomparable))

theorem Unnested.of_subset (h : Unnested more) (hsub : paths ⊆ more) : Unnested paths :=
  fun p hp q hq => h p (hsub hp) q (hsub hq)

theorem Apart.unnested (h : Apart paths) : Unnested paths := by
  intro p hp q hq hpre
  by_contra hne
  exact (List.Pairwise.forall h hp hq hne).1 hpre

theorem Apart.perm (h : Apart paths) (hperm : paths.Perm more) : Apart more :=
  (hperm.pairwise_iff And.symm).mp h

end KeyPath

namespace KeyTable

open KeyPath (Apart Covered Unnested)

variable {old s t : Tree} {separator : String} {entry : String × Bool} {q : KeyPath}
  {entries : List (String × Bool)}

theorem namesAt_eq_nil
    (h : ∀ entry ∈ entries, q <+: pathOf separator entry → q = pathOf separator entry) :
    namesAt separator entries q = [] := by
  rw [namesAt, List.filterMap_eq_nil_iff]
  intro entry hentry
  cases hmeet : (pathOf separator entry).meet q with
  | covers rest => rfl
  | apart => rfl
  | leads next =>
    obtain ⟨hpre, hne⟩ := KeyPath.exists_leads_iff.mp ⟨next, hmeet⟩
    exact absurd (h entry hentry hpre) hne

/-- What stands at or below the path of a key is what the last key with this path has placed. -/
theorem exists_nodeOf_of_unnested (h : build ⟨entries⟩ old separator = .ok t)
    (hunnested : Unnested (paths ⟨entries⟩ separator))
    (hcovered : Covered (paths ⟨entries⟩ separator) q) :
    ∃ entry ∈ entries, ∃ rest, q = pathOf separator entry ++ rest ∧
      t.spot? q = (nodeOf old separator entry).spot? rest := by
  obtain ⟨p, hp, hpre⟩ := hcovered
  obtain ⟨e, he, rfl⟩ := List.mem_map.mp hp
  have hsome : ∃ e ∈ entries, pathOf separator e <+: q := ⟨e, he, hpre⟩
  obtain ⟨before, last, after, rfl, ⟨rest, rfl⟩, hafter⟩ := exists_last hsome
  have hnames : namesAt separator after (pathOf separator last ++ rest) = [] := by
    refine namesAt_eq_nil fun later hlater hpre => ?_
    have hthrough := (List.prefix_append (pathOf separator last) rest).trans hpre
    have heq := hunnested _ (List.mem_map_of_mem (by simp)) _
      (List.mem_map_of_mem (by simp [hlater])) hthrough
    exact absurd (heq ▸ List.prefix_append _ rest) (hafter later hlater)
  refine ⟨last, by simp, rest, rfl, ?_⟩
  rw [spot?_of_last h hafter, hnames, Spot.growAll_nil]

theorem kind_nodeOf_congr {other : String × Bool}
    (h : pathOf separator entry = pathOf separator other) :
    (nodeOf old separator entry).kind = (nodeOf old separator other).kind := by
  have hiff : (nodeOf old separator entry).kind = .subtree ↔
      (nodeOf old separator other).kind = .subtree := by
    rw [kind_nodeOf_eq_subtree_iff, kind_nodeOf_eq_subtree_iff, h]
  cases hkind : (nodeOf old separator entry).kind with
  | phrase =>
    cases hother : (nodeOf old separator other).kind with
    | phrase => rfl
    | subtree => rw [hiff.mpr hother] at hkind; cases hkind
  | subtree => exact (hiff.mp hkind).symm

/-- What stands at the path of a key is of the kind of its node. -/
theorem kind_of_spot?_pathOf {here : Spot} (hs : build ⟨entries⟩ old separator = .ok s)
    (h : Unnested (paths ⟨entries ++ [entry]⟩ separator))
    (hhere : s.spot? (pathOf separator entry) = some here) :
    here.kind = (nodeOf old separator entry).kind := by
  rw [paths_append_singleton] at h
  by_cases hcovered : Covered (paths ⟨entries⟩ separator) (pathOf separator entry)
  · have hbefore : Unnested (paths ⟨entries⟩ separator) := h.of_subset (by simp)
    obtain ⟨first, hfirst, rest, hpath, hspot⟩ := exists_nodeOf_of_unnested hs hbefore hcovered
    have hsame : pathOf separator first = pathOf separator entry :=
      h _ (List.mem_append_left _ (List.mem_map_of_mem hfirst)) _ (by simp) ⟨rest, hpath.symm⟩
    obtain rfl : rest = [] := by simpa [hsame] using hpath
    rw [hspot, Node.spot?_nil] at hhere
    cases hhere
    rw [Node.kind_spot, kind_nodeOf_congr hsame]
  · -- No key before covers the path or leads through it, so nothing stands there.
    have hnames : namesAt separator entries (pathOf separator entry) = [] :=
      namesAt_eq_nil fun e he hpre =>
        h _ (by simp) _ (List.mem_append_left _ (List.mem_map_of_mem he)) hpre
    rw [spot?_of_not_covered hs hcovered, hnames, Spot.growAll_nil,
      Tree.spot?_empty _ (pathOf_ne_nil separator entry)] at hhere
    cases hhere

/-- A key passes when no path before leads through its own or is led through by it. -/
theorem admits_of_unnested (hs : build ⟨entries⟩ old separator = .ok s)
    (h : Unnested (paths ⟨entries ++ [entry]⟩ separator)) (q : KeyPath) :
    Spot.Admits (nodeOf old separator entry).kind (s.spot? q)
      ((pathOf separator entry).meet q) := by
  cases hmeet : (pathOf separator entry).meet q with
  | apart => trivial
  | leads next =>
    obtain ⟨hpre, hne⟩ := KeyPath.exists_leads_iff.mp ⟨next, hmeet⟩
    intro value hvalue
    obtain ⟨⟨p, hp, hpq⟩, -⟩ := sourced_of_build hs hvalue
    rw [paths_append_singleton] at h
    obtain rfl := h p (List.mem_append_left _ hp) _ (by simp) (hpq.trans hpre)
    exact hne (hpre.eq_of_length_le hpq.length_le)
  | covers rest =>
    obtain rfl := KeyPath.meet_eq_covers_iff.mp hmeet
    cases rest with
    | cons key rest => trivial
    | nil =>
      intro here hhere
      rw [List.append_nil] at hhere
      exact kind_of_spot?_pathOf hs h hhere

theorem exists_build_of_unnested (old : Tree)
    (h : Unnested (paths ⟨entries⟩ separator)) : ∃ t, build ⟨entries⟩ old separator = .ok t := by
  induction entries using List.reverseRecOn with
  | nil => exact ⟨.nil, rfl⟩
  | append_singleton entries entry ih =>
    have hbefore : Unnested (paths ⟨entries⟩ separator) :=
      h.of_subset (by simp [paths_append_singleton])
    obtain ⟨s, hs⟩ := ih hbefore
    have hplace := placeKey_eq_ok_iff.mpr ⟨admits_of_unnested hs h, rfl⟩
    exact ⟨_, build_snoc_iff.mpr ⟨s, hs, hplace⟩⟩

theorem nodeOf_empty (separator : String) (entry : String × Bool) :
    nodeOf .nil separator entry = seedOf entry := by
  apply nodeOf_eq_seedOf
  rintro ⟨node, hget, -⟩
  have hspot := Tree.spot?_of_get? hget
  rw [Tree.spot?_empty _ (pathOf_ne_nil separator entry)] at hspot
  cases hspot

/-- Without old texts every key holds a leaf. -/
theorem isLeaf_of_build_empty (h : build ⟨entries⟩ .nil separator = .ok t) :
    ∀ p ∈ paths ⟨entries⟩ separator, t.IsLeaf p := by
  have hkind (entry : String × Bool) : (nodeOf .nil separator entry).kind = .phrase := by
    rw [nodeOf_empty, kind_seedOf]
  intro p hp
  have hsome : ∃ e ∈ entries, pathOf separator e = p := List.mem_map.mp hp
  obtain ⟨before, last, after, rfl, rfl, hafter⟩ := exists_last hsome
  obtain ⟨s, placed, -, hplace, ht⟩ := build_cons_iff.mp h
  obtain ⟨value, hvalue⟩ := exists_seedOf_eq last
  have hplaced : placed.spot? (pathOf separator last) = some (.leaf value) := by
    rw [(placed_of_placeKey hplace).spot?, KeyPath.meet_self, Spot.after, nodeOf_empty, hvalue]
    rfl
  obtain ⟨hleaf, -⟩ := spot?_leaf_of_foldlM ht hplaced hafter fun later _ _ => hkind later
  exact Tree.isLeaf_iff.mpr ⟨value, hleaf⟩

/-- Keys without old texts can all be placed exactly if no path leads through another one. -/
theorem exists_build_empty_iff :
    (∃ t, build ⟨entries⟩ .nil separator = .ok t) ↔ Unnested (paths ⟨entries⟩ separator) := by
  constructor
  · rintro ⟨t, h⟩ p hp q hq hpre
    by_contra hne
    have hnone := Tree.spot?_eq_none_of_isLeaf (isLeaf_of_build_empty h p hp) hpre hne
    obtain ⟨value, hvalue⟩ := Tree.isLeaf_iff.mp (isLeaf_of_build_empty h q hq)
    rw [hnone] at hvalue
    cases hvalue
  · exact exists_build_of_unnested .nil

/-- Every key holds its own node. -/
theorem get?_of_apart (h : build ⟨entries⟩ old separator = .ok t)
    (hapart : Apart (paths ⟨entries⟩ separator)) :
    ∀ entry ∈ entries, t.get? (pathOf separator entry) = some (nodeOf old separator entry) := by
  induction h using build_induction with
  | start => simp
  | step entries entry s t _ ht ih =>
    obtain ⟨-, rfl⟩ := placeKey_eq_ok_iff.mp ht
    rw [paths_append_singleton, Apart, List.pairwise_append] at hapart
    obtain ⟨hbefore, -, hlast⟩ := hapart
    intro e he
    rcases List.mem_append.mp he with he | he
    · have hmeet : (pathOf separator entry).meet (pathOf separator e) = .apart :=
        KeyPath.meet_eq_apart_iff.mpr
          (hlast _ (List.mem_map_of_mem he) _ (List.mem_singleton_self _)).symm
      rw [Tree.get?_place_apart hmeet]
      exact ih hbefore e he
    · rw [List.mem_singleton.mp he]
      exact Tree.get?_place_self (pathOf_ne_nil separator entry) _

theorem placeKey_congr {other : Tree} (h : nodeOf old separator entry = nodeOf other separator entry)
    (s : Tree) : placeKey old separator s entry = placeKey other separator s entry := by
  rw [nodeOf, nodeOf, pathOf] at h
  simp only [placeKey, h]

theorem build_congr {other : Tree}
    (h : ∀ entry ∈ entries, nodeOf old separator entry = nodeOf other separator entry) :
    build ⟨entries⟩ old separator = build ⟨entries⟩ other separator := by
  have hfold (s : Tree) : entries.foldlM (placeKey old separator) s =
      entries.foldlM (placeKey other separator) s := by
    induction entries generalizing s with
    | nil => rfl
    | cons entry entries ih =>
      obtain ⟨hentry, hentries⟩ := List.forall_mem_cons.mp h
      rw [List.foldlM_cons, List.foldlM_cons, placeKey_congr hentry]
      exact bind_congr fun placed => ih hentries placed
  exact hfold .nil

/-- A tree that holds the node of a key gives the same node again. -/
theorem nodeOf_of_get? (h : t.get? (pathOf separator entry) = some (nodeOf old separator entry)) :
    nodeOf t separator entry = nodeOf old separator entry := by
  rcases nodeOf_cases t separator entry with ⟨node, hget, -, hnode⟩ | ⟨hunusable, hseed⟩
  · rw [h] at hget
    rw [hnode, Option.some.inj hget]
  · rcases nodeOf_cases old separator entry with ⟨node, -, hvalue, hnode⟩ | ⟨-, hold⟩
    · rw [hnode] at h
      exact absurd ⟨node, h, hvalue⟩ hunusable
    · rw [hseed, hold]

theorem build_again (h : build ⟨entries⟩ old separator = .ok t)
    (hapart : Apart (paths ⟨entries⟩ separator)) : build ⟨entries⟩ t separator = .ok t := by
  rw [← h]
  exact build_congr fun entry hentry => nodeOf_of_get? (get?_of_apart h hapart entry hentry)

theorem spot?_eq_leaf_iff {value : Phrase} (h : build ⟨entries⟩ old separator = .ok t)
    (hapart : Apart (paths ⟨entries⟩ separator)) :
    t.spot? q = some (.leaf value) ↔ ∃ entry ∈ entries, ∃ rest,
      q = pathOf separator entry ++ rest ∧
        (nodeOf old separator entry).spot? rest = some (.leaf value) := by
  constructor
  · intro hvalue
    obtain ⟨hcovered, -⟩ := sourced_of_build h hvalue
    obtain ⟨entry, hentry, rest, hq, hspot⟩ :=
      exists_nodeOf_of_unnested h hapart.unnested hcovered
    exact ⟨entry, hentry, rest, hq, by rw [← hspot, hvalue]⟩
  · rintro ⟨entry, hentry, rest, rfl, hvalue⟩
    rw [Tree.spot?_append (get?_of_apart h hapart entry hentry), hvalue]

theorem isSome_spot?_build_iff (h : build ⟨entries⟩ old separator = .ok t)
    (hapart : Apart (paths ⟨entries⟩ separator)) :
    (t.spot? q).isSome ↔ q = [] ∨ (∃ entry ∈ entries, q <+: pathOf separator entry) ∨
      ∃ entry ∈ entries, ∃ rest, q = pathOf separator entry ++ rest ∧
        ((nodeOf old separator entry).spot? rest).isSome := by
  constructor
  · intro hsome
    by_cases hcovered : Covered (paths ⟨entries⟩ separator) q
    · obtain ⟨entry, hentry, rest, hq, hspot⟩ :=
        exists_nodeOf_of_unnested h hapart.unnested hcovered
      exact .inr (.inr ⟨entry, hentry, rest, hq, by rwa [← hspot]⟩)
    · refine or_iff_not_imp_left.mpr fun hne => .inl ?_
      by_contra hnone
      have hnames : namesAt separator entries q = [] :=
        namesAt_eq_nil fun entry hentry hpre => absurd ⟨entry, hentry, hpre⟩ hnone
      rw [spot?_of_not_covered h hcovered, hnames, Spot.growAll_nil, Tree.spot?_empty q hne] at hsome
      cases hsome
  · rintro (rfl | ⟨entry, hentry, hpre⟩ | ⟨entry, hentry, rest, rfl, hsome⟩)
    · rfl
    · have hself := Tree.spot?_of_get? (get?_of_apart h hapart entry hentry)
      by_cases hq : q = pathOf separator entry
      · rw [hq, hself]
        rfl
      · obtain ⟨names, hnames⟩ := Tree.exists_inner_above hpre hq hself
        rw [hnames]
        rfl
    · rwa [Tree.spot?_append (get?_of_apart h hapart entry hentry)]

/-- The same keys in another order give the same tree but for the order of its entries. -/
theorem exists_build_perm {more : List (String × Bool)} (hold : old.WellFormed)
    (h : build ⟨entries⟩ old separator = .ok t) (hapart : Apart (paths ⟨entries⟩ separator))
    (hperm : entries.Perm more) :
    ∃ t', build ⟨more⟩ old separator = .ok t' ∧ t'.Reordered t := by
  have hmore : Apart (paths ⟨more⟩ separator) := hapart.perm (hperm.map (pathOf separator))
  obtain ⟨t', h'⟩ := exists_build_of_unnested old hmore.unnested
  have hleaf (path : KeyPath) (value : Phrase) :
      t'.spot? path = some (.leaf value) ↔ t.spot? path = some (.leaf value) := by
    rw [spot?_eq_leaf_iff h' hmore, spot?_eq_leaf_iff h hapart]
    simp only [hperm.mem_iff]
  have hsome (path : KeyPath) : (t'.spot? path).isSome ↔ (t.spot? path).isSome := by
    rw [isSome_spot?_build_iff h' hmore, isSome_spot?_build_iff h hapart]
    simp only [hperm.mem_iff]
  have halike := Tree.alike_of_spots (wellFormed_of_build hold h') (wellFormed_of_build hold h)
    hsome hleaf
  refine ⟨t', h', halike, fun path => Option.ext fun value => ?_⟩
  rw [Tree.getLeaf?_eq_some_iff, Tree.getLeaf?_eq_some_iff, hleaf]

/-- What the key of a sighting holds: a node of use that the old tree has for it, or a seed, which is
plural if any sighting of the key is. -/
theorem get?_of_sighting {sightings : List (String × Bool)} {sighting : String × Bool}
    (h : (empty.recordAll sightings).build old separator = .ok t)
    (hapart : Apart ((empty.recordAll sightings).paths separator)) (hmem : sighting ∈ sightings) :
    let key := recordedKey sighting.1
    let path := KeyPath.parse separator key
    (∀ node, old.get? path = some node → node.hasValue → t.get? path = some node) ∧
      (¬old.Resolves path → t.get? path =
        some (if SightedPlural sightings key then .plural (.seeded key) else .text key)) := by
  intro key path
  let entry : String × Bool := (key, decide (SightedPlural sightings key))
  have hentry : entry ∈ (empty.recordAll sightings).keys :=
    mem_keys_recordAll.mpr ⟨⟨sighting, hmem, rfl⟩, rfl⟩
  have hget : t.get? path = some (nodeOf old separator entry) :=
    get?_of_apart h hapart entry hentry
  constructor
  · intro node hnode hvalue
    rcases nodeOf_cases old separator entry with ⟨kept, hkept, -, heq⟩ | ⟨hunusable, -⟩
    · have hsame : node = kept := Option.some.inj (hnode.symm.trans hkept)
      rw [hget, heq, hsame]
    · exact absurd ⟨node, hnode, hvalue⟩ hunusable
  · intro hunusable
    have hseed : nodeOf old separator entry = seedOf entry := nodeOf_eq_seedOf hunusable
    rw [hget, hseed, seedOf]
    simp [entry]

/-- Without old texts the keys can be placed exactly if no path leads through another one. Keys whose
paths are all apart can be placed in any case: each holds its old node or its seed, the order of the
sightings decides the order of the entries only, and building again changes nothing. -/
theorem build_compatible (separator : String) :
    (∀ table : KeyTable,
      (∃ t, table.build .nil separator = .ok t) ↔ Unnested (table.paths separator)) ∧
    ∀ (old : Tree) (sightings : List (String × Bool)), old.WellFormed →
      Apart ((empty.recordAll sightings).paths separator) →
      ∃ t, (empty.recordAll sightings).build old separator = .ok t ∧
        (∀ sighting ∈ sightings,
          let key := recordedKey sighting.1
          let path := KeyPath.parse separator key
          (∀ node, old.get? path = some node → node.hasValue → t.get? path = some node) ∧
            (¬old.Resolves path → t.get? path =
              some (if SightedPlural sightings key then .plural (.seeded key) else .text key))) ∧
        (∀ more, sightings.Perm more →
          ∃ t', (empty.recordAll more).build old separator = .ok t' ∧ t'.Reordered t) ∧
        (empty.recordAll sightings).build t separator = .ok t := by
  refine ⟨fun table => exists_build_empty_iff, fun old sightings hold hapart => ?_⟩
  obtain ⟨t, h⟩ := exists_build_of_unnested old hapart.unnested
  refine ⟨t, h, fun sighting hmem => get?_of_sighting h hapart hmem, fun more hperm => ?_,
    build_again h hapart⟩
  exact exists_build_perm hold h hapart (perm_recordAll hperm)

/-- A key that is sighted with two kinds of line breaks, and as a plural only later on. -/
theorem build_of_mixed_sightings :
    let topic : Node := .plural ⟨[("few", "f"), ("other", "o")]⟩
    let old : Tree := .branch "room" (.leaf "title" (.text "") (Tree.cons "topic" topic .nil)) .nil
    let sightings : List (String × Bool) :=
      [("room|title", false), ("a\r\nb", false), ("room|topic", false), ("a\nb", true)]
    let table : KeyTable := empty.recordAll sightings
    old.WellFormed ∧ Apart (table.paths "|") ∧
      ∃ t, table.build old "|" = .ok t ∧ t.get? ["a\nb"] = some (.plural (.seeded "a\nb")) ∧
        t.get? ["room", "topic"] = some topic ∧ table.build t "|" = .ok t := by
  intro topic old sightings table
  have hold : old.WellFormed := by
    simp [old, topic, Tree.cons, Tree.WellFormed, Node.plural, Phrase.WellFormed,
      Plural.WellFormed, Assoc.Unique, Plural.otherForm]
  have hpaths : table.paths "|" = [["room", "title"], ["a\nb"], ["room", "topic"]] := by
    decide +kernel
  have hapart : Apart (table.paths "|") := by
    rw [hpaths]
    decide
  obtain ⟨t, h, hkeys, -, hagain⟩ := (build_compatible "|").2 old sightings hold hapart
  have hkey : recordedKey "a\r\nb" = "a\nb" := by decide
  have hline : KeyPath.parse "|" "a\nb" = ["a\nb"] := by decide
  have htopic : KeyPath.parse "|" (recordedKey "room|topic") = ["room", "topic"] := by decide
  have hplural : SightedPlural sightings "a\nb" := by decide
  have hseed := (hkeys ("a\r\nb", false) (by simp [sightings])).2
  have hkept := (hkeys ("room|topic", false) (by simp [sightings])).1
  rw [hkey, hline, if_pos hplural] at hseed
  rw [htopic] at hkept
  have hnew : ¬old.Resolves ["a\nb"] := by
    rintro ⟨node, hnode, -⟩
    cases hnode
  have hget : old.get? ["room", "topic"] = some topic := by decide
  exact ⟨hold, hapart, t, h, hseed hnew, hkept topic hget rfl, hagain⟩

end KeyTable
end Phrasebook
