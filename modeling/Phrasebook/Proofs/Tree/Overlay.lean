import Phrasebook.Proofs.Tree.Entries
import Phrasebook.Proofs.Tree.Leafy
import Phrasebook.Proofs.Tree.Merging
import Phrasebook.Proofs.Tree.Storing

/-!
Deep merges path by path. What the addition has at a path is there afterwards, what is behind one of
its leaves is gone, and everything else is as it was. Merging what is there already changes nothing.
-/
namespace Phrasebook

@[simp] theorem Node.mergeOnto_none (node : Node) : node.mergeOnto none = node := by
  cases node <;> rfl

@[simp] theorem Node.leaf?_mergeOnto (under : Option Node) (node : Node) :
    (node.mergeOnto under).leaf? = node.leaf? := by
  cases node with
  | leaf value => rfl
  | subtree children =>
    rcases mergeOnto_subtree under children with ⟨mine, -, heq⟩ | ⟨-, heq⟩
    · rw [heq]
      rfl
    · rw [heq]

namespace Tree

variable {s t : Tree} {node : Node} {key : String} {q : KeyPath}

/-- Whether there is a leaf at a path or above it. -/
def Stops (t : Tree) (q : KeyPath) : Prop :=
  ∃ above, above <+: q ∧ t.IsLeaf above

theorem stops_of_leaf {value : Phrase} (h : t.find? key = some (.leaf value)) (q : KeyPath) :
    t.Stops (key :: q) :=
  ⟨[key], ⟨q, rfl⟩, isLeaf_iff_get?.mpr ⟨value, h⟩⟩

theorem not_stops_of_absent (h : t.find? key = none) (q : KeyPath) : ¬t.Stops (key :: q) := by
  rintro ⟨above, hpre, hleaf⟩
  obtain ⟨k, above, rfl⟩ := List.exists_cons_of_ne_nil hleaf.ne_nil
  obtain ⟨rfl, -⟩ := List.cons_prefix_cons.mp hpre
  obtain ⟨value, hvalue⟩ := isLeaf_iff.mp hleaf
  simp [spot?_cons, h] at hvalue

theorem stops_cons_iff {children : Tree} (h : t.find? key = some (.subtree children)) :
    t.Stops (key :: q) ↔ children.Stops q := by
  constructor
  · rintro ⟨above, hpre, hleaf⟩
    obtain ⟨k, above, rfl⟩ := List.exists_cons_of_ne_nil hleaf.ne_nil
    obtain ⟨rfl, hbelow⟩ := List.cons_prefix_cons.mp hpre
    exact ⟨above, hbelow, (isLeaf_cons_iff h).mp hleaf⟩
  · rintro ⟨above, hpre, hleaf⟩
    exact ⟨key :: above, List.cons_prefix_cons.mpr ⟨rfl, hpre⟩, (isLeaf_cons_iff h).mpr hleaf⟩

/-- A path that leads to nothing is stopped above its end. -/
theorem stops_iff_of_absent (h : t.get? q = none) :
    t.Stops q ↔ ∃ above, above <+: q ∧ above ≠ q ∧ t.IsLeaf above := by
  constructor
  · rintro ⟨above, hpre, hleaf⟩
    refine ⟨above, hpre, ?_, hleaf⟩
    rintro rfl
    obtain ⟨value, hvalue⟩ := isLeaf_iff_get?.mp hleaf
    rw [h] at hvalue
    cases hvalue
  · rintro ⟨above, hpre, -, hleaf⟩
    exact ⟨above, hpre, hleaf⟩

/-- Where a subtree is, no leaf is above it. -/
theorem not_stops_of_inner {names : List String} (h : t.spot? q = some (.inner names)) :
    ¬t.Stops q := by
  rintro ⟨above, hpre, hleaf⟩
  by_cases hne : above = q
  · obtain ⟨value, hvalue⟩ := isLeaf_iff.mp hleaf
    rw [hne, h] at hvalue
    cases hvalue
  · rw [spot?_eq_none_of_isLeaf hleaf hpre hne] at h
    cases h

theorem entries_merge_of_disjoint (ht : t.WellFormed) (h : ∀ key ∈ t.keys, key ∉ s.keys) :
    (s.merge t).entries = s.entries ++ t.entries := by
  induction t using entry_induction generalizing s with
  | nil => exact (List.append_nil s.entries).symm
  | entry key node rest _ ih =>
    obtain ⟨hfresh, -, hrest⟩ := wellFormed_cons_iff.mp ht
    rw [keys_cons, List.forall_mem_cons] at h
    have hdisjoint : ∀ k ∈ rest.keys, k ∉ (s.put key node).keys := by
      intro k hk hmem
      rw [keys_put, if_neg h.1, List.mem_append, List.mem_singleton] at hmem
      obtain hmem | rfl := hmem
      · exact h.2 k hk hmem
      · exact hfresh hk
    rw [merge_cons, find?_eq_none h.1, Node.mergeOnto_none, ih hrest hdisjoint,
      entries_put_of_notMem h.1, entries_cons, List.append_assoc, List.singleton_append]

theorem nil_merge (ht : t.WellFormed) : nil.merge t = t := by
  apply entries_injective
  rw [entries_merge_of_disjoint ht (by simp)]
  rfl

/-- A subtree is merged with the subtree that is there, empty if there is none. -/
theorem mergeOnto_find? {theirs : Tree} (h : theirs.WellFormed) (s : Tree) (key : String) :
    (Node.subtree theirs).mergeOnto (s.find? key) = .subtree ((s.childrenOf key).merge theirs) := by
  rcases Node.mergeOnto_subtree (s.find? key) theirs with ⟨mine, hfind, heq⟩ | ⟨hnone, heq⟩
  · rw [heq, childrenOf, hfind]
  · have hchildren : s.childrenOf key = .nil := by
      rw [childrenOf]
      split
      · rename_i mine hfind
        exact absurd hfind (hnone mine)
      · rfl
    rw [heq, hchildren, nil_merge h]

/-- A merge goes node by node. It takes what the addition has, takes away what is behind a leaf of
the addition, and leaves the rest. -/
theorem get?_merge (ht : t.WellFormed) (hq : q ≠ []) :
    (∃ node, t.get? q = some node ∧ (s.merge t).get? q = some (node.mergeOnto (s.get? q))) ∨
      (t.get? q = none ∧ t.Stops q ∧ (s.merge t).get? q = none) ∨
      (t.get? q = none ∧ ¬t.Stops q ∧ (s.merge t).get? q = s.get? q) := by
  induction q generalizing s t with
  | nil => exact absurd rfl hq
  | cons key q ih =>
    have hmerged := find?_merge (s := s) ht key
    cases hfind : t.find? key with
    | none =>
      rw [hfind, Option.map_none, Option.none_or] at hmerged
      have habsent : t.get? (key :: q) = none := by
        rw [get?_congr (t := nil) hfind, get?_nil]
      exact .inr (.inr ⟨habsent, not_stops_of_absent hfind q, get?_congr hmerged q⟩)
    | some node =>
      rw [hfind, Option.map_some, Option.some_or] at hmerged
      cases q with
      | nil => exact .inl ⟨node, hfind, hmerged⟩
      | cons k q =>
        cases node with
        | leaf value =>
          -- The leaf is in the merged tree as well, and nothing is behind it in either.
          refine .inr (.inl ⟨?_, stops_of_leaf hfind _, ?_⟩)
          · rw [get?_cons_cons, hfind]
            rfl
          · rw [get?_cons_cons, hmerged]
            rfl
        | subtree theirs =>
          have htheirs : (Node.subtree theirs).WellFormed := ht.find? hfind
          rw [mergeOnto_find? htheirs] at hmerged
          rw [get?_cons_of_subtree hmerged (by simp), get?_cons_of_subtree hfind (by simp),
            stops_cons_iff hfind, ← get?_childrenOf]
          exact ih htheirs (by simp)

theorem keys_merge (ht : t.WellFormed) :
    (s.merge t).keys = s.keys ++ t.keys.filter (· ∉ s.keys) := by
  induction t using entry_induction generalizing s with
  | nil => simp [merge]
  | entry key node rest _ ih =>
    obtain ⟨hfresh, -, hrest⟩ := wellFormed_cons_iff.mp ht
    rw [merge_cons, ih hrest, keys_put, keys_cons, List.filter_cons]
    by_cases hkey : key ∈ s.keys
    · simp [hkey]
    · -- The keys that follow are others.
      have hsame : rest.keys.filter (· ∉ s.keys ++ [key]) = rest.keys.filter (· ∉ s.keys) := by
        apply List.filter_congr
        intro k hk
        have hne : k ≠ key := by
          rintro rfl
          exact hfresh hk
        simp [hne]
      rw [if_neg hkey, if_pos (by simpa using hkey), hsame, List.append_assoc,
        List.singleton_append]

theorem keys_mergeOnto {theirs : Tree} (h : theirs.WellFormed) (under : Option Node) :
    ((Node.subtree theirs).mergeOnto under).keys =
      (under.map Node.keys).getD [] ++ theirs.keys.filter (· ∉ (under.map Node.keys).getD []) := by
  rcases Node.mergeOnto_subtree under theirs with ⟨mine, rfl, heq⟩ | ⟨hnone, heq⟩
  · rw [heq]
    exact keys_merge h
  · have hempty : (under.map Node.keys).getD [] = [] := by
      cases under with
      | none => rfl
      | some node =>
        cases node with
        | leaf value => rfl
        | subtree mine => exact absurd rfl (hnone mine)
    rw [heq, hempty]
    exact (List.filter_eq_self.mpr (by simp)).symm

/-- At every level the keys that are there come first, and the new ones follow in their own order. A
leaf of the addition ends all levels below it. -/
theorem keysAt_merge (ht : t.WellFormed) (q : KeyPath) :
    (t.Stops q → (s.merge t).keysAt q = []) ∧
      (¬t.Stops q →
        (s.merge t).keysAt q = s.keysAt q ++ (t.keysAt q).filter (· ∉ s.keysAt q)) := by
  by_cases hq : q = []
  · subst hq
    refine ⟨fun hstops => absurd hstops (not_stops_of_inner (spot?_nil t)), fun _ => ?_⟩
    exact keys_merge ht
  · simp only [keysAt_of_ne_nil hq]
    rcases get?_merge (s := s) ht hq with ⟨node, hget, hmerged⟩ | ⟨hget, hstops, hmerged⟩ |
      ⟨hget, hpasses, hmerged⟩
    · rw [hget, hmerged]
      cases node with
      | leaf value =>
        have hleaf : t.IsLeaf q := isLeaf_iff_get?.mpr ⟨value, hget⟩
        exact ⟨fun _ => rfl, fun hpasses => absurd ⟨q, List.prefix_rfl, hleaf⟩ hpasses⟩
      | subtree theirs =>
        have htheirs : (Node.subtree theirs).WellFormed := ht.get? hget
        exact ⟨fun hstops => absurd hstops (not_stops_of_inner (spot?_of_get? hget)),
          fun _ => keys_mergeOnto htheirs (s.get? q)⟩
    · rw [hmerged]
      exact ⟨fun _ => rfl, fun hpasses => absurd hstops hpasses⟩
    · rw [hget, hmerged]
      exact ⟨fun hstops => absurd hstops hpasses, fun _ => by simp⟩

/-- Whether a tree has every node of another, leaves with the same phrase. -/
def Includes (s t : Tree) : Prop :=
  ∀ q node, t.get? q = some node → ∃ found, s.get? q = some found ∧ found.leaf? = node.leaf?

theorem Includes.refl (s : Tree) : s.Includes s :=
  fun _ node h => ⟨node, h, rfl⟩

theorem Includes.below {mine theirs : Tree} (h : s.Includes t)
    (hmine : s.find? key = some (.subtree mine)) (htheirs : t.find? key = some (.subtree theirs)) :
    mine.Includes theirs := by
  intro q node hget
  have hq : q ≠ [] := ne_nil_of_get? hget
  rw [← get?_cons_of_subtree hmine hq]
  exact h (key :: q) node (by rwa [get?_cons_of_subtree htheirs hq])

/-- What is merged in is there. -/
theorem includes_merge (ht : t.WellFormed) : (s.merge t).Includes t := by
  intro q node hget
  have hq : q ≠ [] := ne_nil_of_get? hget
  rcases get?_merge (s := s) ht hq with ⟨found, hfound, hmerged⟩ | ⟨hnone, -⟩ | ⟨hnone, -⟩
  · rw [hget] at hfound
    cases hfound
    exact ⟨_, hmerged, Node.leaf?_mergeOnto (s.get? q) node⟩
  · rw [hget] at hnone
    cases hnone
  · rw [hget] at hnone
    cases hnone

theorem merge_of_includes (ht : t.WellFormed) (h : s.Includes t) : s.merge t = s := by
  induction t using entry_induction generalizing s with
  | nil => rfl
  | entry key node rest ihc ihr =>
    obtain ⟨hfresh, hnode, hrest⟩ := wellFormed_cons_iff.mp ht
    have hentry : (cons key node rest).find? key = some node := by simp
    obtain ⟨found, hfound, hleaf⟩ := h [key] node hentry
    have hfind : s.find? key = some found := hfound
    have hsame : node.mergeOnto (some found) = found := by
      cases node with
      | leaf value =>
        cases found with
        | leaf mine =>
          cases hleaf
          rfl
        | subtree mine => cases hleaf
      | subtree theirs =>
        cases found with
        | leaf value => cases hleaf
        | subtree mine =>
          exact congrArg Node.subtree (ihc theirs rfl hnode (h.below hfind hentry))
    rw [merge_cons, hfind, hsame, put_of_find? hfind]
    exact ihr hrest fun q found hget => h q found (get?_of_notMem_cons hfresh node hget)

/-- A merge path by path: a leaf of the addition is there, a subtree of the addition is a subtree
there, nothing is left behind a leaf of the addition, and all else is as before. Keys stay in their
positions and new ones follow. Merges with an empty tree, of a tree into itself, and of the same
addition once more change nothing. -/
theorem merge_pointwise (hs : s.WellFormed) (ht : t.WellFormed) :
    let merged := s.merge t
    (∀ q, q ≠ [] →
        (∀ value, t.get? q = some (.leaf value) → merged.get? q = some (.leaf value)) ∧
          (∀ theirs, t.get? q = some (.subtree theirs) →
            ∃ children, merged.get? q = some (.subtree children)) ∧
          (t.get? q = none →
            ((∃ above, above <+: q ∧ above ≠ q ∧ t.IsLeaf above) → merged.get? q = none) ∧
              (¬(∃ above, above <+: q ∧ above ≠ q ∧ t.IsLeaf above) →
                merged.get? q = s.get? q))) ∧
      (∀ q, (t.Stops q → merged.keysAt q = []) ∧
        (¬t.Stops q → merged.keysAt q = s.keysAt q ++ (t.keysAt q).filter (· ∉ s.keysAt q))) ∧
      s.merge .nil = s ∧ nil.merge s = s ∧ s.merge s = s ∧ merged.merge t = merged := by
  intro merged
  refine ⟨fun q hq => ?_, keysAt_merge ht, rfl, nil_merge hs, merge_of_includes hs (.refl s),
    merge_of_includes ht (includes_merge ht)⟩
  rcases get?_merge (s := s) ht hq with ⟨node, hget, hmerged⟩ | ⟨hget, hstops, hmerged⟩ |
    ⟨hget, hpasses, hmerged⟩
  · refine ⟨?_, ?_, ?_⟩
    · intro value hvalue
      obtain rfl := Option.some.inj (hget.symm.trans hvalue)
      exact hmerged
    · intro theirs htheirs
      obtain rfl := Option.some.inj (hget.symm.trans htheirs)
      rcases Node.mergeOnto_subtree (s.get? q) theirs with ⟨mine, -, heq⟩ | ⟨-, heq⟩
      · exact ⟨mine.merge theirs, hmerged.trans (congrArg some heq)⟩
      · exact ⟨theirs, hmerged.trans (congrArg some heq)⟩
    · intro hnone
      rw [hget] at hnone
      cases hnone
  · rw [← stops_iff_of_absent hget]
    simp [hget, hstops, merged, hmerged]
  · rw [← stops_iff_of_absent hget]
    simp [hget, hpasses, merged, hmerged]

/-- Subtrees meet at `a`, a subtree takes the place of a leaf at `b` and a leaf that of a subtree at
`d`, while `c` is left alone. -/
theorem merge_clashing_entries :
    let s : Tree := .branch "a" (.leaf "x" (.text "1") .nil) (.leaf "b" (.text "2")
      (.leaf "c" (.text "3") (.branch "d" (.leaf "e" (.text "4") .nil) .nil)))
    let t : Tree := .leaf "d" (.text "5") (.branch "b" (.leaf "z" (.text "6") .nil)
      (.branch "a" (.leaf "y" (.text "7") (.leaf "x" (.text "8") .nil)) .nil))
    let merged := s.merge t
    s.WellFormed ∧ t.WellFormed ∧ merged.get? ["a", "x"] = some (.text "8") ∧
      (∃ children, merged.get? ["b"] = some (.subtree children)) ∧
      merged.get? ["c"] = some (.text "3") ∧ merged.get? ["d", "e"] = none ∧
      merged.keysAt [] = ["a", "b", "c", "d"] ∧ merged.keysAt ["a"] = ["x", "y"] ∧
      merged.merge t = merged := by
  intro s t merged
  have hs : s.WellFormed := by simp [s, WellFormed, Phrase.WellFormed]
  have ht : t.WellFormed := by simp [t, WellFormed, Phrase.WellFormed]
  have hd : t.IsLeaf ["d"] := ⟨.text "5", by decide⟩
  obtain ⟨hnodes, hkeys, -, -, -, hagain⟩ := merge_pointwise hs ht
  have hc : ¬∃ above, above <+: ["c"] ∧ above ≠ ["c"] ∧ t.IsLeaf above := by
    rw [← stops_iff_of_absent (by decide)]
    exact not_stops_of_absent (by decide) []
  have hroot : ¬t.Stops [] := not_stops_of_inner (spot?_nil t)
  have hinner : t.spot? ["a"] = some (.inner ["y", "x"]) := by decide
  have ha : ¬t.Stops ["a"] := not_stops_of_inner hinner
  refine ⟨hs, ht, (hnodes ["a", "x"] (by simp)).1 (.text "8") (by decide),
    (hnodes ["b"] (by simp)).2.1 (.leaf "z" (.text "6") .nil) (by decide), ?_, ?_, ?_, ?_, hagain⟩
  · exact ((hnodes ["c"] (by simp)).2.2 (by decide)).2 hc
  · exact ((hnodes ["d", "e"] (by simp)).2.2 (by decide)).1 ⟨["d"], by decide, by decide, hd⟩
  · exact ((hkeys []).2 hroot).trans (by decide)
  · exact ((hkeys ["a"]).2 ha).trans (by decide)

end Tree
end Phrasebook
