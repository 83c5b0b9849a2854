import Phrasebook.Proofs.Tree.Entries
import Phrasebook.Proofs.Tree.Obstacles

/-!
Removals from a tree that is changed in place. One node goes with all that is in it, whatever else
there is stays, and a removal takes back the write of a new node.
-/
namespace Phrasebook.Tree

variable {t : Tree} {node : Node} {path : KeyPath}

/-- A removal in place answers what was at its path and leaves the tree without it. -/
theorem remove_eq (t : Tree) (path : KeyPath) : t.remove path = (t.get? path, t.unset path) := by
  induction path generalizing t with
  | nil => rfl
  | cons key path ih =>
    cases path with
    | nil => rfl
    | cons k path =>
      rw [remove, get?_cons_cons, unset_cons_cons]
      · cases hfind : t.find? key with
        | none => rfl
        | some found =>
          cases found with
          | leaf value => rfl
          | subtree children => simp [ih children]
      · simp

theorem put_put (key : String) (first second : Node) (t : Tree) :
    (t.put key first).put key second = t.put key second := by
  apply entries_injective
  simp only [entries_put]
  exact Assoc.put_put key first second t.entries

theorem erase_put_of_absent {key : String} (h : t.find? key = none) (node : Node) :
    (t.put key node).erase key = t := by
  have hfresh : key ∉ t.keys := by
    rw [mem_keys_iff, h]
    simp
  have hpass : ∀ entry ∈ t.entries, ¬entry.1 = key := by
    rintro ⟨k, found⟩ hentry rfl
    exact hfresh (List.mem_map_of_mem hentry)
  apply entries_injective
  rw [entries_erase, entries_put_of_notMem hfresh, List.eraseP_append_right _ (by simpa using hpass)]
  simp

/-- Whether there are subtrees all the way to a path. -/
def Reaches (t : Tree) (path : KeyPath) : Prop :=
  ∀ q, q ≠ [] → q <+: path → q ≠ path → ∃ children, t.get? q = some (.subtree children)

theorem Reaches.exists_child {key k : String} (h : t.Reaches (key :: k :: path)) :
    ∃ children : Tree, t.find? key = some (.subtree children) ∧ children.Reaches (k :: path) := by
  obtain ⟨children, hfind⟩ := h [key] (by simp) ⟨k :: path, rfl⟩ (by simp)
  refine ⟨children, hfind, fun q hq hpre hne => ?_⟩
  rw [← get?_cons_of_subtree hfind hq]
  exact h (key :: q) (by simp) (List.cons_prefix_cons.mpr ⟨rfl, hpre⟩) (by simpa using hne)

/-- A new node that needed no new subtree above it is taken away without a trace. -/
theorem unset_place (habsent : t.get? path = none) (hreaches : t.Reaches path) (node : Node) :
    (t.place node path).unset path = t := by
  induction path generalizing t with
  | nil => rfl
  | cons key path ih =>
    cases path with
    | nil => exact erase_put_of_absent habsent node
    | cons k path =>
      obtain ⟨children, hfind, hbelow⟩ := hreaches.exists_child
      rw [get?_cons_of_subtree hfind (by simp)] at habsent
      have hchildren : t.childrenOf key = children := by rw [childrenOf, hfind]
      let inner := children.place node (k :: path)
      calc (t.place node (key :: k :: path)).unset (key :: k :: path)
        _ = (t.put key (.subtree inner)).put key (.subtree (inner.unset (k :: path))) := by
          rw [place_cons_cons, hchildren, unset_cons_cons, find?_put_self]
        _ = t.put key (.subtree children) := by rw [put_put, ih habsent hbelow]
        _ = t := put_of_find? hfind

theorem collision?_of_reaches (habsent : t.get? path = none) (hreaches : t.Reaches path)
    (kind : NodeKind) : t.collision? kind path = none := by
  cases hcollision : t.collision? kind path with
  | none => rfl
  | some blocked =>
    have hobstacle := collision?_eq_some_iff.mp hcollision
    rcases exists_obstacle_iff.mp ⟨_, _, hobstacle⟩ with ⟨q, hpre, hne, hleaf⟩ | ⟨found, hfound, -⟩
    · obtain ⟨children, hchildren⟩ := hreaches q hleaf.ne_nil hpre hne
      obtain ⟨value, hvalue⟩ := isLeaf_iff_get?.mp hleaf
      rw [hchildren] at hvalue
      cases hvalue
    · rw [habsent] at hfound
      cases hfound

theorem remove_store (habsent : t.get? path = none) (hreaches : t.Reaches path) (hpath : path ≠ [])
    (node : Node) :
    ∃ after, t.store path node = (.ok none, after) ∧ after.remove path = (some node, t) := by
  refine ⟨t.place node path, ?_, ?_⟩
  · exact store_eq_ok_iff.mpr ⟨hpath, collision?_of_reaches habsent hreaches node.kind, habsent, rfl⟩
  · rw [remove_eq, get?_place_self hpath, unset_place habsent hreaches]

/-- A removal in place answers what was at its path, and changes nothing if that is nothing. Otherwise
nothing is left at or below the path, the subtrees above it stay, however empty, what is apart from it
is as before, and the keys of every level outside it stay in order. A second removal finds nothing.
A removal takes back the write of a new node where no subtree was missing. -/
theorem remove_takes_one_node (ht : t.WellFormed) (path : KeyPath) :
    let removed := (t.remove path).1
    let after := (t.remove path).2
    removed = t.get? path ∧
      (removed = none → after = t) ∧
      (removed ≠ none →
        (∀ rest, after.get? (path ++ rest) = none) ∧
          (∀ q, path.Incomparable q → after.get? q = t.get? q) ∧
          after.Reaches path ∧
          ∀ q, ¬path <+: q →
            after.keysAt q = (t.keysAt q).filter fun key => q ++ [key] ≠ path) ∧
      after.remove path = (none, after) ∧
      (t.get? path = none → t.Reaches path → ∀ node,
        ((t.store path node).2.remove path).2 = t ∧
          (path ≠ [] → (t.store path node).1 = .ok none ∧
            ((t.store path node).2.remove path).1 = some node)) := by
  intro removed after
  have hremoved : removed = t.get? path := by simp only [removed, remove_eq]
  have hafter : after = t.unset path := by simp only [after, remove_eq]
  have hgone : after.get? path = none := by
    by_cases hpath : path = []
    · subst hpath
      rfl
    · simpa [hafter] using get?_unset_below ht hpath []
  refine ⟨hremoved, ?_, ?_, ?_, ?_⟩
  · intro hnone
    rw [hafter, unset_of_get?_none (hremoved ▸ hnone)]
  · intro hsome
    rw [hremoved] at hsome
    obtain ⟨found, hfound⟩ := Option.ne_none_iff_exists'.mp hsome
    have hpath : path ≠ [] := ne_nil_of_get? hfound
    rw [hafter]
    refine ⟨get?_unset_below ht hpath, ?_, ?_, fun q hq => keysAt_unset ht hq⟩
    · intro q hq
      exact get?_unset_apart (KeyPath.meet_eq_apart_iff.mpr hq) t
    · intro q hq hpre hne
      obtain ⟨children, hchildren⟩ := exists_subtree_above hfound hq hpre hne
      refine exists_subtree_unset hchildren ?_
      intro hback
      exact hne (hpre.eq_of_length_le hback.length_le)
  · rw [remove_eq, hgone, unset_of_get?_none hgone]
  · intro habsent hreaches node
    by_cases hpath : path = []
    · subst hpath
      exact ⟨rfl, fun hne => absurd rfl hne⟩
    · obtain ⟨written, hstore, hback⟩ := remove_store habsent hreaches hpath node
      rw [hstore, hback]
      exact ⟨rfl, fun _ => ⟨rfl, rfl⟩⟩

/-- The only entry of a subtree, which stays when it is taken, and where it can be put again. -/
theorem remove_only_entry :
    let t : Tree := .branch "a" (.leaf "b" (.text "1") .nil) (.leaf "z" (.text "2") .nil)
    let after : Tree := .branch "a" .nil (.leaf "z" (.text "2") .nil)
    t.WellFormed ∧ t.remove ["a", "b"] = (some (.text "1"), after) ∧
      after.get? ["a", "b", "c"] = none ∧ after.get? ["z"] = t.get? ["z"] ∧
      after.keysAt [] = ["a", "z"] ∧ after.remove ["a", "b"] = (none, after) ∧
      after.get? ["a", "b"] = none ∧ after.Reaches ["a", "b"] ∧
      ((after.store ["a", "b"] (.text "3")).2.remove ["a", "b"]).2 = after := by
  intro t after
  have ht : t.WellFormed := by simp [t, WellFormed, Phrase.WellFormed]
  have hafter : after.WellFormed := by simp [after, WellFormed, Phrase.WellFormed]
  have hremove : t.remove ["a", "b"] = (some (.text "1"), after) := by decide
  have hall := remove_takes_one_node ht ["a", "b"]
  rw [hremove] at hall
  obtain ⟨-, -, hsome, hagain, -⟩ := hall
  obtain ⟨hbelow, hapart, hreaches, hkeys⟩ := hsome (by simp)
  have hback := (remove_takes_one_node hafter ["a", "b"]).2.2.2.2 (hbelow []) hreaches (.text "3")
  exact ⟨ht, hremove, hbelow ["c"], hapart ["z"] (by decide), (hkeys [] (by decide)).trans (by decide),
    hagain, hbelow [], hreaches, hback.1⟩

end Phrasebook.Tree
