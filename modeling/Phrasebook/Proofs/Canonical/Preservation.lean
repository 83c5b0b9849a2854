import Phrasebook.Proofs.Canonical.Placement

/-!
What building the canonical tree keeps, and where its leaves come from.
-/
namespace Phrasebook.KeyTable

open KeyPath (Covered)

variable {old t : Tree} {separator : String} {entries : List (String × Bool)}

/-- Where the leaf at a position comes from: the same position of the old tree, or the seed of a key
with this path. -/
def Sourced (old : Tree) (separator : String) (entries : List (String × Bool)) (q : KeyPath)
    (value : Phrase) : Prop :=
  old.spot? q = some (.leaf value) ∨
    ∃ entry ∈ entries, pathOf separator entry = q ∧ seedOf entry = .leaf value

theorem Sourced.append {q : KeyPath} {value : Phrase} (h : Sourced old separator entries q value)
    (more : List (String × Bool)) : Sourced old separator (entries ++ more) q value := by
  rcases h with hold | ⟨entry, hentry, hseed⟩
  · exact .inl hold
  · exact .inr ⟨entry, List.mem_append_left more hentry, hseed⟩

/-- A key brings in leaves of the old tree and its own seed. -/
theorem sourced_nodeOf {entry : String × Bool} {rest : KeyPath} {value : Phrase}
    (h : (nodeOf old separator entry).spot? rest = some (.leaf value)) (hentry : entry ∈ entries) :
    Sourced old separator entries (pathOf separator entry ++ rest) value := by
  rcases spot?_nodeOf_cases old separator entry with ⟨-, hspot⟩ | ⟨-, hseed⟩
  · exact .inl (by rw [← hspot, h])
  · rw [hseed] at h
    cases rest with
    | nil =>
      obtain ⟨found, heq⟩ := exists_seedOf_eq entry
      rw [heq, Node.spot?_nil] at h
      cases h
      exact .inr ⟨entry, hentry, by simp, heq⟩
    | cons key rest =>
      rw [spot?_seedOf_eq_none (by simp)] at h
      cases h

theorem sourced_of_build {q : KeyPath} {value : Phrase}
    (h : build ⟨entries⟩ old separator = .ok t) (hleaf : t.spot? q = some (.leaf value)) :
    Covered (paths ⟨entries⟩ separator) q ∧ Sourced old separator entries q value := by
  induction h using build_induction with
  | start => cases q <;> cases hleaf
  | step entries entry s t _ ht ih =>
    rw [(placed_of_placeKey ht).spot? q] at hleaf
    rw [paths_append_singleton, KeyPath.covered_append_singleton]
    cases hmeet : (pathOf separator entry).meet q with
    | covers rest =>
      rw [hmeet] at hleaf
      obtain rfl := KeyPath.meet_eq_covers_iff.mp hmeet
      exact ⟨.inr (KeyPath.prefix_of_covers hmeet), sourced_nodeOf hleaf (by simp)⟩
    | leads next =>
      -- A path that leads on leaves a subtree behind.
      obtain ⟨names, hgrow, -⟩ := Spot.exists_grow_eq next (s.spot? q)
      rw [hmeet, Spot.after, hgrow] at hleaf
      cases hleaf
    | apart =>
      rw [hmeet] at hleaf
      obtain ⟨hcovered, hsource⟩ := ih hleaf
      exact ⟨.inl hcovered, hsource.append [entry]⟩

/-- Building keeps the usable leaf of every recorded key, and each leaf it gives is below a recorded
key and taken from the old tree or seeded by a key with exactly its path. -/
theorem build_preserves {table : KeyTable} (hold : old.WellFormed)
    (h : table.build old separator = .ok t) :
    (∀ entry ∈ table.keys, ∀ value,
      old.getLeaf? (KeyPath.parse separator entry.1) = some value → (Node.leaf value).hasValue →
        t.getLeaf? (KeyPath.parse separator entry.1) = some value) ∧
    ∀ leaf ∈ t.leaves,
      (∃ entry ∈ table.keys, KeyPath.parse separator entry.1 <+: leaf.1) ∧
        (old.getLeaf? leaf.1 = some leaf.2 ∨
          ∃ entry ∈ table.keys, KeyPath.parse separator entry.1 = leaf.1 ∧
            leaf.2 = if entry.2 then .plural (.seeded entry.1) else .text entry.1) := by
  constructor
  · intro entry hentry value hleaf hvalue
    rw [Tree.getLeaf?_eq_some_iff] at hleaf ⊢
    obtain ⟨kept, hkept, -, heq⟩ :=
      exists_spot?_of_covered hleaf h (covered_pathOf separator hentry)
    rw [hkept, heq rfl hvalue]
  · rintro ⟨path, value⟩ hleaf
    have hspot := Tree.spot?_of_mem_leaves (wellFormed_of_build hold h) hleaf
    obtain ⟨⟨p, hp, hpre⟩, hsource⟩ := sourced_of_build h hspot
    obtain ⟨entry, hentry, rfl⟩ := List.mem_map.mp hp
    refine ⟨⟨entry, hentry, hpre⟩, ?_⟩
    rcases hsource with hkeep | ⟨source, hsource, hpath, hseed⟩
    · exact .inl (Tree.getLeaf?_eq_some_iff.mpr hkeep)
    · refine .inr ⟨source, hsource, hpath, ?_⟩
      rw [seedOf] at hseed
      split_ifs at hseed ⊢ with hplural <;> exact (Node.leaf.inj hseed).symm

/-- The subtree of a key takes the place of what a longer key has put there. An entry in it is kept,
and the next key seeds another one. -/
theorem overlapping_build_preserves :
    let old : Tree := .branch "a" (.leaf "x" (.text "X") .nil) (.leaf "c" (.text "C") .nil)
    let table : KeyTable := ⟨[("a|b", false), ("a", false), ("a|y", true), ("a|x", true)]⟩
    let t : Tree := .branch "a" (.leaf "x" (.text "X") (.leaf "y" (.plural (.seeded "a|y")) .nil)) .nil
    old.WellFormed ∧ table.build old "|" = .ok t ∧
      t.getLeaf? (KeyPath.parse "|" "a|x") = some (.text "X") ∧
      (["a", "y"], .plural (.seeded "a|y")) ∈ t.leaves ∧ old.getLeaf? ["a", "y"] = none ∧
      ∃ entry ∈ table.keys, KeyPath.parse "|" entry.1 = ["a", "y"] ∧
        Phrase.plural (.seeded "a|y") =
          if entry.2 then .plural (.seeded entry.1) else .text entry.1 := by
  intro old table t
  have hold : old.WellFormed := by simp [old, Tree.WellFormed, Phrase.WellFormed]
  have hbuild : table.build old "|" = .ok t := by decide
  have hseeded : (["a", "y"], .plural (.seeded "a|y")) ∈ t.leaves := by decide
  have hnew : old.getLeaf? ["a", "y"] = none := by decide
  obtain ⟨hkept, hsourced⟩ := build_preserves hold hbuild
  refine ⟨hold, hbuild, ?_, hseeded, hnew, ?_⟩
  · exact hkept ("a|x", true) (by simp [table]) (.text "X") (by decide) (by decide)
  · refine (hsourced _ hseeded).2.resolve_left fun hleaf => ?_
    rw [hnew] at hleaf
    cases hleaf

end Phrasebook.KeyTable
