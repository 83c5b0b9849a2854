import Phrasebook.Proofs.Tree.Alike
import Phrasebook.Proofs.Tree.Entries
import Phrasebook.Proofs.Tree.Storing

/-!
The walk over the leaves. What it has still to yield is read off its open levels and its trail, step
by step, so that a whole walk is the recursive enumeration: every leaf once, in document order.
-/
namespace Phrasebook.Tree

variable {t rest : Tree} {node : Node} {key : String} {p q : KeyPath}

namespace Walk

/-- The leaves of some open levels, where the innermost of them has the keys `trail` above it and
each next level has one key less. -/
def pendingOf : List Tree → KeyPath → List (KeyPath × Phrase)
  | [], _ => []
  | level :: outer, trail => level.leavesBelow trail ++ pendingOf outer trail.dropLast

def pending (w : Walk) : List (KeyPath × Phrase) :=
  pendingOf w.levels w.trail

/-- A step yields the first leaf that is pending, and the others stay pending. -/
theorem pending_step (w : Walk) :
    w.pending = (w.next?.map fun (item, after) => item :: after.pending).getD [] := by
  fun_induction next? w with
  | case1 trail => rfl
  | case2 outer trail ih => exact ih
  | case3 key value rest outer trail => rfl
  | case4 key children rest outer trail ih =>
    -- The way back out of the subtree restores the trail.
    have hback : (trail.child key).dropLast = trail := List.dropLast_concat
    rw [← ih]
    simp only [pending, pendingOf, leavesBelow, hback, List.append_assoc]

theorem toList_eq_pending (w : Walk) : w.toList = w.pending := by
  fun_induction toList w with
  | case1 w hnext => rw [pending_step, hnext]; rfl
  | case2 w item after hnext ih => rw [pending_step, hnext, ih]; rfl

end Walk

theorem toList_start (t : Tree) : (Walk.start t).toList = t.leaves := by
  rw [Walk.toList_eq_pending]
  exact List.append_nil t.leaves

/-- Whether two paths part at some level, where the key that the first goes on with stands before the
key of the second. -/
def Precedes (t : Tree) (p q : KeyPath) : Prop :=
  ∃ above k j, above ++ [k] <+: p ∧ above ++ [j] <+: q ∧ [k, j].Sublist (t.keysAt above)

theorem Precedes.below {children : Tree} (hfind : t.find? key = some (.subtree children))
    (h : children.Precedes p q) : t.Precedes (key :: p) (key :: q) := by
  obtain ⟨above, k, j, hk, hj, hkeys⟩ := h
  have hspot : t.spot? (key :: above) = children.spot? above := by
    rw [spot?_cons, hfind]
    rfl
  exact ⟨key :: above, k, j, List.cons_prefix_cons.mpr ⟨rfl, hk⟩,
    List.cons_prefix_cons.mpr ⟨rfl, hj⟩, keysAt_congr hspot ▸ hkeys⟩

theorem Precedes.cons (hkey : key ∉ rest.keys) (node : Node) (h : rest.Precedes p q) :
    (cons key node rest).Precedes p q := by
  obtain ⟨above, k, j, hk, hj, hkeys⟩ := h
  refine ⟨above, k, j, hk, hj, ?_⟩
  cases above with
  | nil =>
    rw [keysAt_nil, keys_cons]
    exact hkeys.cons key
  | cons first above =>
    -- Behind the new key the rest has no level, so the paths part elsewhere.
    have hne : key ≠ first := by
      rintro rfl
      have hnone : rest.spot? (key :: above) = none := by
        rw [spot?_cons, find?_eq_none hkey]
        rfl
      rw [keysAt_of_spot?_eq_none hnone] at hkeys
      cases hkeys
    have hspot := spot?_cons_cons key first node rest above
    rw [if_neg hne] at hspot
    rwa [keysAt_congr hspot]

/-- The first entry is before all others. -/
theorem precedes_of_first (node : Node) {other : String} (hother : other ∈ rest.keys)
    (p q : KeyPath) : (cons key node rest).Precedes (key :: p) (other :: q) := by
  refine ⟨[], key, other, ⟨p, rfl⟩, ⟨q, rfl⟩, ?_⟩
  rw [keysAt_nil, keys_cons]
  exact (List.singleton_sublist.mpr hother).cons_cons key

theorem nodup_keysAt (ht : t.WellFormed) (q : KeyPath) : (t.keysAt q).Nodup := by
  cases hspot : t.spot? q with
  | none => simp [keysAt_of_spot?_eq_none hspot]
  | some spot =>
    rw [keysAt_of_spot? hspot]
    cases spot with
    | leaf value => exact List.nodup_nil
    | inner names => exact nodup_names ht hspot

theorem Precedes.incomparable (ht : t.WellFormed) (h : t.Precedes p q) : p.Incomparable q := by
  obtain ⟨above, k, j, hk, hj, hkeys⟩ := h
  have hne : k ≠ j := by
    simpa using hkeys.nodup (nodup_keysAt ht above)
  have hpart {r : KeyPath} (hkr : above ++ [k] <+: r) (hjr : above ++ [j] <+: r) : False := by
    have hlength : (above ++ [k]).length ≤ (above ++ [j]).length := by simp
    have heq := (List.prefix_of_prefix_length_le hkr hjr hlength).eq_of_length (by simp)
    exact hne (by simpa using heq)
  exact ⟨fun hpq => hpart (hk.trans hpq) hj, fun hqp => hpart hk (hj.trans hqp)⟩

theorem leafPaths_cons_subtree (key : String) (children rest : Tree) :
    (cons key (.subtree children) rest).leafPaths =
      children.leafPaths.map (key :: ·) ++ rest.leafPaths := by
  simp [cons, leafPaths]

theorem exists_key_of_mem_leafPaths (ht : t.WellFormed) (h : p ∈ t.leafPaths) :
    ∃ key path, p = key :: path ∧ key ∈ t.keys := by
  obtain ⟨value, hvalue⟩ := isLeaf_iff.mp ((mem_leafPaths_iff ht).mp h)
  cases p with
  | nil => cases hvalue
  | cons key path =>
    obtain ⟨node, hfind, -⟩ := Option.bind_eq_some_iff.mp ((spot?_cons t key path) ▸ hvalue)
    refine ⟨key, path, rfl, ?_⟩
    rw [mem_keys_iff, hfind]
    rfl

theorem pairwise_leafPaths (ht : t.WellFormed) : t.leafPaths.Pairwise t.Precedes := by
  induction t using entry_induction with
  | nil => exact .nil
  | entry key node rest ihc ihr =>
    obtain ⟨hfresh, hnode, hrest⟩ := wellFormed_cons_iff.mp ht
    have hlater : rest.leafPaths.Pairwise (cons key node rest).Precedes :=
      (ihr hrest).imp fun h => h.cons hfresh node
    have hfirst (p : KeyPath) : ∀ q ∈ rest.leafPaths, (cons key node rest).Precedes (key :: p) q := by
      intro q hq
      obtain ⟨other, q, rfl, hother⟩ := exists_key_of_mem_leafPaths hrest hq
      exact precedes_of_first node hother p q
    cases node with
    | leaf value => exact List.pairwise_cons.mpr ⟨hfirst [], hlater⟩
    | subtree children =>
      have hfind : (cons key (.subtree children) rest).find? key = some (.subtree children) := by
        simp
      rw [leafPaths_cons_subtree, List.pairwise_append, List.pairwise_map]
      refine ⟨(ihc children rfl hnode).imp fun h => h.below hfind, hlater, ?_⟩
      intro p hp q hq
      obtain ⟨inner, -, rfl⟩ := List.mem_map.mp hp
      exact hfirst inner q hq

/-- A walk to its end yields what the recursive enumeration lists: the leaves of the tree, a plural
as one of them, with their paths, each once, in document order. No path leads through another. -/
theorem walk_yields_each_leaf (ht : t.WellFormed) :
    let yielded := (Walk.start t).toList
    let paths := yielded.map Prod.fst
    yielded = t.leaves ∧
      (∀ path value, (path, value) ∈ yielded ↔ t.getLeaf? path = some value) ∧
      paths.Nodup ∧ paths.Pairwise t.Precedes ∧ paths.Pairwise KeyPath.Incomparable := by
  intro yielded paths
  have hall : yielded = t.leaves := toList_start t
  have hpaths : paths = t.leafPaths := congrArg (List.map Prod.fst) hall
  have horder : paths.Pairwise t.Precedes := hpaths ▸ pairwise_leafPaths ht
  have hapart : paths.Pairwise KeyPath.Incomparable := horder.imp fun h => h.incomparable ht
  have hnodup : paths.Nodup := by
    refine hapart.imp ?_
    rintro p q hpq rfl
    exact hpq.1 List.prefix_rfl
  refine ⟨hall, fun path value => ?_, hnodup, horder, hapart⟩
  rw [hall, mem_leaves_iff ht]

/-- A plural, an empty subtree between the leaves of another, and the way back to the root. -/
theorem walk_nested_tree :
    let forms : Plural := ⟨[("one", "1"), ("other", "2")]⟩
    let t : Tree := .branch "a" (.leaf "x" (.plural forms) (.branch "b" .nil
      (.leaf "y" (.text "3") .nil))) (.leaf "z" (.text "4") .nil)
    t.WellFormed ∧
      (Walk.start t).toList =
        [(["a", "x"], .plural forms), (["a", "y"], .text "3"), (["z"], .text "4")] ∧
      (["a", "x", "one"], .text "1") ∉ (Walk.start t).toList := by
  intro forms t
  have ht : t.WellFormed := by
    simp [t, forms, WellFormed, Phrase.WellFormed, Plural.WellFormed, Assoc.Unique,
      Plural.otherForm]
  obtain ⟨hall, hleaf, -⟩ := walk_yields_each_leaf ht
  exact ⟨ht, hall.trans (by decide), fun hmem => absurd ((hleaf _ _).mp hmem) (by decide)⟩

end Phrasebook.Tree
