import Phrasebook.Proofs.Canonical.LastWord
import Phrasebook.Proofs.Tree.Rereading

/-!
Building the canonical tree once more, from the tree that was written and read back. The second run
succeeds unless a leaf it starts from is put in the way of a longer key, and it gives the same tree
when the keys behind such leaves are placed anew in both runs.
-/
namespace Phrasebook

/-- No leaf that a key puts back stands in the way of a later key. -/
def KeyPath.Passable (read : Tree) (paths : List KeyPath) : Prop :=
  paths.Pairwise fun p later => ∀ q, read.IsLeaf q → p <+: q → q <+: later → q = later

/-- The last key of each path behind a leaf is recorded as if it was new. -/
def KeyTable.Reseeded (old read : Tree) (separator : String) (table : KeyTable) : Prop :=
  ∀ before entry after, table.keys = before ++ entry :: after →
    (∀ later ∈ after, pathOf separator later ≠ pathOf separator entry) →
      ∀ q, read.IsLeaf q → q <+: pathOf separator entry → q ≠ pathOf separator entry →
        nodeOf old separator entry = seedOf entry

theorem Tree.not_resolves_of_isLeaf {t : Tree} {q path : KeyPath} (h : t.IsLeaf q)
    (hpre : q <+: path) (hne : q ≠ path) : ¬t.Resolves path := by
  rintro ⟨node, hget, -⟩
  have hspot := spot?_of_get? hget
  rw [spot?_eq_none_of_isLeaf h hpre hne] at hspot
  cases hspot

namespace KeyTable

open KeyPath (Covered Passable)

variable {old read s t : Tree} {separator : String} {entry : String × Bool} {q : KeyPath}
  {entries before after : List (String × Bool)}

theorem passable_append_singleton {paths : List KeyPath} {p : KeyPath} :
    Passable read (paths ++ [p]) ↔
      Passable read paths ∧ ∀ q, read.IsLeaf q → Covered paths q → q <+: p → q = p := by
  rw [Passable, List.pairwise_append]
  simp only [List.pairwise_singleton, List.mem_singleton, forall_eq, true_and]
  constructor
  · rintro ⟨hpaths, hlast⟩
    exact ⟨hpaths, fun q hq ⟨a, ha, haq⟩ => hlast a ha q hq haq⟩
  · rintro ⟨hpaths, hlast⟩
    exact ⟨hpaths, fun a ha q hq haq => hlast q hq ⟨a, ha, haq⟩⟩

/-- A run that succeeds was never stopped by a leaf of the tree it started from. -/
theorem passable_of_build (h : build ⟨entries⟩ old separator = .ok t) :
    Passable old (paths ⟨entries⟩ separator) := by
  induction h using build_induction with
  | start => exact List.Pairwise.nil
  | step entries entry s t hs ht ih =>
    rw [paths_append_singleton, passable_append_singleton]
    refine ⟨ih, fun q hq hcovered hpre => ?_⟩
    by_contra hne
    obtain ⟨next, hmeet⟩ := KeyPath.exists_leads_iff.mpr ⟨hpre, hne⟩
    obtain ⟨value, hvalue⟩ := Tree.isLeaf_iff.mp hq
    obtain ⟨kept, hkept, hkind, -⟩ := exists_spot?_of_covered hvalue hs hcovered
    have hadmits := (placed_of_placeKey ht).admits q
    rw [hmeet, hkept] at hadmits
    cases kept with
    | leaf found => exact absurd rfl (hadmits found)
    | inner names => cases hkind

/-- A subtree that a key puts back is read as a subtree. An entry `other` can only come from a later
key, which a leaf would stop. -/
theorem not_mistaken_of_covered (hold : old.Unambiguous)
    (h : build ⟨entries⟩ old separator = .ok t) (hpass : Passable read (paths ⟨entries⟩ separator))
    (hcovered : Covered (paths ⟨entries⟩ separator) q) (hleaf : read.IsLeaf q) : ¬t.Mistaken q := by
  induction h using build_induction with
  | start => simp [Covered, paths] at hcovered
  | step entries entry s t _ ht ih =>
    rw [paths_append_singleton, passable_append_singleton] at hpass
    rw [paths_append_singleton, KeyPath.covered_append_singleton] at hcovered
    rintro ⟨hq, names, hspot, hother⟩
    rw [(placed_of_placeKey ht).spot? q] at hspot
    cases hmeet : (pathOf separator entry).meet q with
    | covers rest =>
      rw [hmeet, Spot.after] at hspot
      obtain rfl := KeyPath.meet_eq_covers_iff.mp hmeet
      rcases spot?_nodeOf_cases old separator entry with ⟨-, hnode⟩ | ⟨-, hseed⟩
      · exact hold.not_mistaken _ ⟨hq, names, by rw [← hnode, hspot], hother⟩
      · rw [hseed] at hspot
        exact spot?_seedOf_ne_inner entry rest names hspot
    | leads next =>
      have hbefore := hcovered.resolve_right (KeyPath.not_prefix_of_leads hmeet)
      obtain ⟨hpre, hne⟩ := KeyPath.exists_leads_iff.mp ⟨next, hmeet⟩
      exact hne (hpass.2 q hleaf hbefore hpre)
    | apart =>
      rw [hmeet] at hspot
      exact ih hpass.1 (hcovered.resolve_right (KeyPath.not_prefix_of_apart hmeet))
        ⟨hq, names, hspot, hother⟩

theorem kind_nodeOf_eq_subtree_iff :
    (nodeOf old separator entry).kind = .subtree ↔
      ∃ names, old.spot? (pathOf separator entry) = some (.inner names) := by
  rcases spot?_nodeOf_cases old separator entry with ⟨-, hspot⟩ | ⟨hunusable, hseed⟩
  · have hself := hspot []
    rw [List.append_nil, Node.spot?_nil] at hself
    rw [← hself]
    cases nodeOf old separator entry with
    | leaf value => simp [Node.kind, Node.spot]
    | subtree children => simp [Node.kind, Node.spot]
  · rw [hseed, kind_seedOf]
    refine iff_of_false (by simp) ?_
    rintro ⟨names, hnames⟩
    exact hunusable (Tree.resolves_of_inner (pathOf_ne_nil separator entry) hnames)

/-- How the trees of two runs over the same keys compare, when the second starts from `read`. -/
structure Tracks (read : Tree) (paths : List KeyPath) (s s' : Tree) : Prop where
  leaf (q : KeyPath) (value : Phrase) (h : s'.spot? q = some (.leaf value)) :
    (Covered paths q ∧ read.IsLeaf q) ∨
      ((∃ found, s.spot? q = some (.leaf found)) ∧ read.spot? q = none)
  inner (q : KeyPath) (names : List String) (h : s'.spot? q = some (.inner names)) :
    (∃ used, read.spot? q = some (.inner used)) ∨ ∃ used, s.spot? q = some (.inner used)

section Steps

variable {paths : List KeyPath} {s' t' : Tree}

/-- What lets a key pass in the first run lets it pass in the second one. -/
theorem Tracks.admits (htracks : Tracks read paths s s') (hplaced : Placed old separator s entry t)
    (hpass : ∀ q, read.IsLeaf q → Covered paths q → q <+: pathOf separator entry →
      q = pathOf separator entry)
    (hinner : ∀ names, old.spot? (pathOf separator entry) = some (.inner names) →
      ∃ kept, read.spot? (pathOf separator entry) = some (.inner kept)) (q : KeyPath) :
    Spot.Admits (nodeOf read separator entry).kind (s'.spot? q)
      ((pathOf separator entry).meet q) := by
  have hadmits := hplaced.admits q
  cases hmeet : (pathOf separator entry).meet q with
  | apart => trivial
  | leads next =>
    rw [hmeet] at hadmits
    intro value hvalue
    rcases htracks.leaf q value hvalue with ⟨hcovered, hleaf⟩ | ⟨⟨found, hfound⟩, -⟩
    · obtain ⟨hpre, hne⟩ := KeyPath.exists_leads_iff.mp ⟨next, hmeet⟩
      exact absurd (hpass q hleaf hcovered hpre) hne
    · exact hadmits found hfound
  | covers rest =>
    obtain rfl := KeyPath.meet_eq_covers_iff.mp hmeet
    cases rest with
    | cons key rest => trivial
    | nil =>
      rw [hmeet] at hadmits
      rw [List.append_nil] at hadmits ⊢
      intro here hhere
      cases here with
      | leaf value =>
        -- A subtree here would show in `read`, where there is a leaf or nothing.
        cases hkind : (nodeOf read separator entry).kind with
        | phrase => rfl
        | subtree =>
          obtain ⟨names, hnames⟩ := kind_nodeOf_eq_subtree_iff.mp hkind
          rcases htracks.leaf _ value hhere with ⟨-, hleaf⟩ | ⟨-, hnone⟩
          · obtain ⟨found, hfound⟩ := Tree.isLeaf_iff.mp hleaf
            rw [hfound] at hnames
            cases hnames
          · rw [hnone] at hnames
            cases hnames
      | inner names =>
        refine (kind_nodeOf_eq_subtree_iff.mpr ?_).symm
        rcases htracks.inner _ names hhere with hread | ⟨used, hused⟩
        · exact hread
        · obtain ⟨kept, hkept⟩ := kind_nodeOf_eq_subtree_iff.mp (hadmits _ hused).symm
          exact hinner kept hkept

/-- The leaves a key places are leaves of the tree it takes them from, or its seed is put where that
tree has nothing. -/
theorem isLeaf_of_spot?_nodeOf {rest : KeyPath} {value : Phrase}
    (h : (nodeOf read separator entry).spot? rest = some (.leaf value)) :
    read.IsLeaf (pathOf separator entry ++ rest) ∨
      (rest = [] ∧ read.spot? (pathOf separator entry) = none) := by
  rcases spot?_nodeOf_cases read separator entry with ⟨-, hspot⟩ | ⟨hunusable, hseed⟩
  · rw [hspot] at h
    exact .inl (Tree.isLeaf_iff.mpr ⟨value, h⟩)
  · cases rest with
    | cons key rest =>
      rw [hseed, spot?_seedOf_eq_none (by simp)] at h
      cases h
    | nil =>
      rw [List.append_nil]
      cases hread : read.spot? (pathOf separator entry) with
      | none => exact .inr ⟨rfl, rfl⟩
      | some found =>
        cases found with
        | leaf found => exact .inl (Tree.isLeaf_iff.mpr ⟨found, hread⟩)
        | inner names =>
          exact absurd (Tree.resolves_of_inner (pathOf_ne_nil separator entry) hread) hunusable

theorem exists_leaf_nodeOf (h : ∀ names, old.spot? (pathOf separator entry) ≠ some (.inner names)) :
    ∃ value, nodeOf old separator entry = .leaf value := by
  cases hnode : nodeOf old separator entry with
  | leaf value => exact ⟨value, rfl⟩
  | subtree children =>
    have hkind : (nodeOf old separator entry).kind = .subtree := by rw [hnode]; rfl
    obtain ⟨names, hnames⟩ := kind_nodeOf_eq_subtree_iff.mp hkind
    exact absurd hnames (h names)

theorem Tracks.step (htracks : Tracks read paths s s') (hplaced : Placed old separator s entry t)
    (hplaced' : Placed read separator s' entry t')
    (hinner : ∀ names, old.spot? (pathOf separator entry) = some (.inner names) →
      ∃ kept, read.spot? (pathOf separator entry) = some (.inner kept)) :
    Tracks read (paths ++ [pathOf separator entry]) t t' := by
  constructor
  · intro q value h
    rw [hplaced'.spot? q] at h
    rw [hplaced.spot? q, KeyPath.covered_append_singleton]
    cases hmeet : (pathOf separator entry).meet q with
    | covers rest =>
      rw [hmeet, Spot.after] at h
      have hpre := KeyPath.prefix_of_covers hmeet
      obtain rfl := KeyPath.meet_eq_covers_iff.mp hmeet
      rcases isLeaf_of_spot?_nodeOf h with hleaf | ⟨rfl, hread⟩
      · exact .inl ⟨.inr hpre, hleaf⟩
      · -- The first run has a seed here as well, since its subtrees are all in `read`.
        have hfirst : ∀ names, old.spot? (pathOf separator entry) ≠ some (.inner names) := by
          intro names hnames
          obtain ⟨kept, hkept⟩ := hinner names hnames
          rw [hread] at hkept
          cases hkept
        obtain ⟨found, hfound⟩ := exists_leaf_nodeOf hfirst
        rw [List.append_nil, Spot.after, Node.spot?_nil, hfound]
        exact .inr ⟨⟨found, rfl⟩, hread⟩
    | leads next =>
      obtain ⟨names, hgrow, -⟩ := Spot.exists_grow_eq next (s'.spot? q)
      rw [hmeet, Spot.after, hgrow] at h
      cases h
    | apart =>
      rw [hmeet] at h
      exact (htracks.leaf q value h).imp_left (And.imp_left .inl)
  · intro q names h
    rw [hplaced'.spot? q] at h
    rw [hplaced.spot? q]
    cases hmeet : (pathOf separator entry).meet q with
    | covers rest =>
      rw [hmeet, Spot.after] at h
      obtain rfl := KeyPath.meet_eq_covers_iff.mp hmeet
      rcases spot?_nodeOf_cases read separator entry with ⟨-, hspot⟩ | ⟨-, hseed⟩
      · rw [hspot] at h
        exact .inl ⟨names, h⟩
      · rw [hseed] at h
        exact absurd h (spot?_seedOf_ne_inner entry rest names)
    | leads next =>
      obtain ⟨used, hgrow, -⟩ := Spot.exists_grow_eq next (s.spot? q)
      exact .inr ⟨used, by rw [Spot.after, hgrow]⟩
    | apart =>
      rw [hmeet] at h
      exact htracks.inner q names h

end Steps

/-- The second run succeeds when no leaf that a key puts back stands in the way of a later key, and
the subtrees at recorded paths are still there. -/
theorem exists_second_build (h : build ⟨entries⟩ old separator = .ok t)
    (hpass : Passable read (paths ⟨entries⟩ separator))
    (hinner : ∀ entry ∈ entries, ∀ names,
      old.spot? (pathOf separator entry) = some (.inner names) →
        ∃ kept, read.spot? (pathOf separator entry) = some (.inner kept)) :
    ∃ t', build ⟨entries⟩ read separator = .ok t' ∧
      Tracks read (paths ⟨entries⟩ separator) t t' := by
  induction h using build_induction with
  | start =>
    refine ⟨.nil, rfl, ⟨fun q value h => ?_, fun q names h => .inr ⟨names, h⟩⟩⟩
    cases q <;> cases h
  | step entries entry s t _ ht ih =>
    rw [paths_append_singleton, passable_append_singleton] at hpass
    obtain ⟨s', hs', htracks⟩ := ih hpass.1 fun e he => hinner e (by simp [he])
    have hplaced := placed_of_placeKey ht
    have hhere := hinner entry (by simp)
    have hplace' : placeKey read separator s' entry = .ok _ :=
      placeKey_eq_ok_iff.mpr ⟨htracks.admits hplaced hpass.2 hhere, rfl⟩
    refine ⟨_, build_snoc_iff.mpr ⟨s', hs', hplace'⟩, ?_⟩
    rw [paths_append_singleton]
    exact htracks.step hplaced (placed_of_placeKey hplace') hhere

end KeyTable
end Phrasebook
