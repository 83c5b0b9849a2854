import Phrasebook.Proofs.Tree.Removal

/-!
Writes to a tree that is changed in place. One that fails leaves no trace. One that succeeds replaces
what is at its path, and each level on the way there gains one key at most, in the last place.
-/
namespace Phrasebook

def Node.keys : Node → List String
  | .leaf _ => []
  | .subtree children => children.keys

def Spot.names : Spot → List String
  | .leaf _ => []
  | .inner names => names

namespace Tree

variable {t after : Tree} {node : Node} {whole path q : KeyPath}

theorem storeAlong_cons_cons (t : Tree) (whole : KeyPath) (node : Node) (key k : String)
    (path : KeyPath) :
    t.storeAlong whole node (key :: k :: path) =
      match t.find? key with
      | some (.leaf _) => (.error (.collision whole key .phrase), t)
      | some (.subtree children) =>
        ((children.storeAlong whole node (k :: path)).1,
          t.put key (.subtree (children.storeAlong whole node (k :: path)).2))
      | none =>
        ((nil.storeAlong whole node (k :: path)).1,
          t.put key (.subtree (nil.storeAlong whole node (k :: path)).2)) := rfl

theorem get?_nil (path : KeyPath) : nil.get? path = none := by
  rcases path with _ | ⟨key, _ | ⟨k, path⟩⟩ <;> rfl

/-- A write that nothing stops answers what was at its path. -/
theorem storeAlong_of_free (hpath : path ≠ []) (h : t.collision? node.kind path = none) :
    t.storeAlong whole node path = (.ok (t.get? path), t.place node path) := by
  induction path generalizing t with
  | nil => exact absurd rfl hpath
  | cons key path ih =>
    cases path with
    | nil =>
      rw [collision?] at h
      rw [storeAlong, get?, place]
      cases hfind : t.find? key with
      | none => rfl
      | some found =>
        have hkind : found.kind = node.kind := by simpa [hfind] using h
        simp [hkind]
    | cons k path =>
      rw [collision?_cons_cons] at h
      rw [storeAlong_cons_cons, get?_cons_cons, place_cons_cons, childrenOf]
      cases hfind : t.find? key with
      | none =>
        have hcreated := ih (t := nil) (by simp) (collision?_of_find?_none rfl node.kind path)
        simp [hcreated, get?_nil]
      | some found =>
        rw [hfind] at h
        cases found with
        | leaf value => cases h
        | subtree children =>
          have hbelow := ih (t := children) (by simp) h
          simp [hbelow]

/-- A write that is stopped has created nothing: a subtree is only created where nothing is below
that could stop it. -/
theorem storeAlong_of_collision {segment : String} {found : NodeKind}
    (h : t.collision? node.kind path = some (segment, found)) :
    t.storeAlong whole node path = (.error (.collision whole segment found), t) := by
  induction path generalizing t with
  | nil => cases h
  | cons key path ih =>
    cases path with
    | nil =>
      rw [collision?] at h
      rw [storeAlong]
      cases hfind : t.find? key with
      | none => simp [hfind] at h
      | some existing =>
        rw [hfind] at h
        by_cases hkind : existing.kind = node.kind
        · simp [hkind] at h
        · obtain ⟨rfl, rfl⟩ : key = segment ∧ existing.kind = found := by simpa [hkind] using h
          simp [hkind]
    | cons k path =>
      rw [collision?_cons_cons] at h
      rw [storeAlong_cons_cons]
      cases hfind : t.find? key with
      | none => simp [hfind] at h
      | some existing =>
        rw [hfind] at h
        cases existing with
        | leaf value =>
          cases h
          rfl
        | subtree children =>
          have hbelow := ih (t := children) h
          simp [hbelow, put_of_find? hfind]

/-- A write in place answers what was at its path and leaves the written tree, or answers why it
failed and leaves the tree as it was. -/
theorem store_eq (t : Tree) (path : KeyPath) (node : Node) :
    t.store path node =
      ((t.set path node).map fun _ => t.get? path, (t.set path node).toOption.getD t) := by
  rw [store]
  by_cases hpath : path = []
  · subst hpath
    rfl
  · cases hcollision : t.collision? node.kind path with
    | none =>
      rw [storeAlong_of_free hpath hcollision, set_of_free hpath hcollision]
      rfl
    | some blocked =>
      obtain ⟨segment, found⟩ := blocked
      rw [storeAlong_of_collision hcollision, set_of_collision hcollision]
      rfl

theorem store_eq_error_iff {cause : PathError} :
    t.store path node = (.error cause, after) ↔ t.set path node = .error cause ∧ after = t := by
  rw [store_eq]
  cases hset : t.set path node with
  | error found => simp [Except.map, Except.toOption, eq_comm]
  | ok written => simp [Except.map]

theorem store_eq_ok_iff {previous : Option Node} :
    t.store path node = (.ok previous, after) ↔
      path ≠ [] ∧ t.collision? node.kind path = none ∧ t.get? path = previous ∧
        t.place node path = after := by
  rw [store_eq]
  by_cases hpath : path = []
  · subst hpath
    simp [set, Except.map]
  · cases hcollision : t.collision? node.kind path with
    | none => simp [set_of_free hpath hcollision, hpath, Except.map, Except.toOption]
    | some blocked => simp [set_of_collision hcollision, Except.map]

def keysAt (t : Tree) (q : KeyPath) : List String :=
  if q = [] then t.keys else ((t.get? q).map Node.keys).getD []

/-- The key that a write by `path` brings to the level at `q`, if it leads through this level and the
key is not there. -/
def newKeys (t : Tree) (path q : KeyPath) : List String :=
  match path.meet q with
  | .leads next => if next ∈ t.keysAt q then [] else [next]
  | _ => []

theorem keysAt_nil (t : Tree) : t.keysAt [] = t.keys := rfl

theorem keysAt_of_ne_nil (hq : q ≠ []) (t : Tree) :
    t.keysAt q = ((t.get? q).map Node.keys).getD [] :=
  if_neg hq

theorem keysAt_of_spot? {spot : Spot} (h : t.spot? q = some spot) : t.keysAt q = spot.names := by
  cases q with
  | nil =>
    cases h
    rfl
  | cons key q =>
    obtain ⟨found, hfound, rfl⟩ := exists_get?_of_spot? (by simp) h
    rw [keysAt_of_ne_nil (by simp), hfound]
    cases found <;> rfl

theorem keysAt_of_spot?_eq_none (h : t.spot? q = none) : t.keysAt q = [] := by
  cases q with
  | nil => cases h
  | cons key q =>
    rw [keysAt_of_ne_nil (by simp)]
    cases hget : t.get? (key :: q) with
    | none => rfl
    | some found =>
      rw [spot?_of_get? hget] at h
      cases h

theorem keysAt_congr {s : Tree} {p : KeyPath} (h : s.spot? p = t.spot? q) :
    s.keysAt p = t.keysAt q := by
  cases hspot : t.spot? q with
  | none => rw [keysAt_of_spot?_eq_none hspot, keysAt_of_spot?_eq_none (h.trans hspot)]
  | some spot => rw [keysAt_of_spot? hspot, keysAt_of_spot? (h.trans hspot)]

/-- Where a path leads to something, there are subtrees on the way. -/
theorem exists_subtree_above (h : t.get? path = some node) (hq : q ≠ []) (hpre : q <+: path)
    (hne : q ≠ path) : ∃ children, t.get? q = some (.subtree children) := by
  obtain ⟨names, hinner⟩ := exists_inner_above hpre hne (spot?_of_get? h)
  obtain ⟨found, hfound, hspot⟩ := exists_get?_of_spot? hq hinner
  cases found with
  | leaf value => cases hspot
  | subtree children => exact ⟨children, hfound⟩

theorem append_prefix_of_mem_newKeys {key : String} (h : key ∈ t.newKeys path q) :
    q ++ [key] <+: path := by
  rw [newKeys] at h
  cases hmeet : path.meet q with
  | covers rest => simp [hmeet] at h
  | apart => simp [hmeet] at h
  | leads next =>
    obtain ⟨rest, rfl⟩ := KeyPath.meet_eq_leads_iff.mp hmeet
    simp only [hmeet] at h
    split_ifs at h
    · cases h
    · rw [List.mem_singleton.mp h]
      exact ⟨rest, by simp⟩

/-- A write brings one key at most to a level that it does not replace. -/
theorem keysAt_place (hpath : path ≠ []) (h : t.collision? node.kind path = none)
    (hq : ¬path <+: q) : (t.place node path).keysAt q = t.keysAt q ++ t.newKeys path q := by
  have hspot := spot?_place hpath h q
  rw [newKeys]
  cases hmeet : path.meet q with
  | covers rest => exact absurd (KeyPath.prefix_of_covers hmeet) hq
  | apart =>
    have hne : q ≠ [] := (KeyPath.meet_eq_apart_iff.mp hmeet).ne_nil
    simp [keysAt_of_ne_nil hne, get?_place_apart hmeet]
  | leads next =>
    rw [hmeet, Spot.after] at hspot
    rw [keysAt_of_spot? hspot]
    cases hbefore : t.spot? q with
    | none => simp [Spot.grow, Spot.names, keysAt_of_spot?_eq_none hbefore]
    | some spot =>
      rw [keysAt_of_spot? hbefore]
      cases spot with
      | leaf value => simp [Spot.grow, Spot.names]
      | inner names => by_cases hnext : next ∈ names <;> simp [Spot.grow, Spot.names, hnext]

theorem keys_unset (ht : t.WellFormed) (next : String) (rest : KeyPath) :
    (t.unset (next :: rest)).keys = t.keys.filter fun key => [key] ≠ next :: rest := by
  cases rest with
  | nil =>
    rw [unset, keys_erase, ht.nodup_keys.erase_eq_filter]
    simp [bne, beq_eq_decide]
  | cons k rest =>
    have hkeys : (t.unset (next :: k :: rest)).keys = t.keys := by
      rw [unset_cons_cons]
      split
      · rename_i children hfind
        rw [keys_put, if_pos (mem_keys_iff.mpr (by simp [hfind]))]
      · rfl
    rw [hkeys]
    exact (List.filter_eq_self.mpr (by simp)).symm

/-- A removal takes one key at most from a level that it does not remove. -/
theorem keysAt_unset (ht : t.WellFormed) (hq : ¬path <+: q) :
    (t.unset path).keysAt q = (t.keysAt q).filter fun key => q ++ [key] ≠ path := by
  cases hmeet : path.meet q with
  | covers rest => exact absurd (KeyPath.prefix_of_covers hmeet) hq
  | apart =>
    have hapart := KeyPath.meet_eq_apart_iff.mp hmeet
    have hall (key : String) : q ++ [key] ≠ path := by
      rintro rfl
      exact hapart.2 (List.prefix_append q [key])
    rw [keysAt_of_ne_nil hapart.ne_nil, keysAt_of_ne_nil hapart.ne_nil, get?_unset_apart hmeet]
    exact (List.filter_eq_self.mpr fun key _ => decide_eq_true (hall key)).symm
  | leads next =>
    obtain ⟨rest, rfl⟩ := KeyPath.meet_eq_leads_iff.mp hmeet
    simp only [ne_eq, List.append_cancel_left_eq]
    by_cases hne : q = []
    · subst hne
      exact keys_unset ht next rest
    · rw [keysAt_of_ne_nil hne, keysAt_of_ne_nil hne, get?_unset_above (by simp)]
      cases hget : t.get? q with
      | none => rfl
      | some found =>
        cases found with
        | leaf value => rfl
        | subtree children =>
          have hchildren : children.WellFormed := ht.get? hget
          exact keys_unset hchildren next rest

/-- A removal keeps the subtrees that it does not remove as a whole, however empty they become. -/
theorem exists_subtree_unset {children : Tree} (h : t.get? q = some (.subtree children))
    (hq : ¬path <+: q) : ∃ rest, (t.unset path).get? q = some (.subtree rest) := by
  cases hmeet : path.meet q with
  | covers rest => exact absurd (KeyPath.prefix_of_covers hmeet) hq
  | apart =>
    rw [get?_unset_apart hmeet]
    exact ⟨children, h⟩
  | leads next =>
    obtain ⟨below, rfl⟩ := KeyPath.meet_eq_leads_iff.mp hmeet
    rw [get?_unset_above (by simp), h]
    exact ⟨_, rfl⟩

/-- A write in place that succeeds leaves the written tree and answers what was at its path. The node
is then there with all that is in it, subtrees lead to it, what is apart from the path is as before,
and so are the keys of every level outside the node, but for a new one in the last place. -/
theorem store_lawful {previous : Option Node} (h : t.store path node = (.ok previous, after)) :
    t.set path node = .ok after ∧
      previous = t.get? path ∧
      after.get? path = some node ∧
      (∀ rest, rest ≠ [] → after.get? (path ++ rest) = node.get? rest) ∧
      (∀ q, q ≠ [] → q <+: path → q ≠ path → ∃ children, after.get? q = some (.subtree children)) ∧
      (∀ q, path.Incomparable q → after.get? q = t.get? q) ∧
      ∀ q, ¬path <+: q → after.keysAt q = t.keysAt q ++ t.newKeys path q := by
  obtain ⟨hpath, hfree, rfl, rfl⟩ := store_eq_ok_iff.mp h
  have hself := get?_place_self (t := t) hpath node
  refine ⟨set_of_free hpath hfree, rfl, hself, ?_, ?_, ?_, ?_⟩
  · intro rest hrest
    exact get?_append hrest hself
  · intro q hq hpre hne
    exact exists_subtree_above hself hq hpre hne
  · intro q hq
    exact get?_place_apart (KeyPath.meet_eq_apart_iff.mpr hq) t node
  · intro q hq
    exact keysAt_place hpath hfree hq

/-- A subtree stored below a level that is there and one that is not. -/
theorem store_below_missing_level :
    let node : Node := .subtree (.leaf "d" (.text "3") .nil)
    let t : Tree := .branch "a" (.leaf "x" (.text "1") .nil) (.leaf "z" (.text "2") .nil)
    let after : Tree := .branch "a" (.leaf "x" (.text "1")
      (.branch "b" (.branch "c" (.leaf "d" (.text "3") .nil) .nil) .nil)) (.leaf "z" (.text "2") .nil)
    t.store ["a", "b", "c"] node = (.ok none, after) ∧ t.get? ["a", "b", "c"] = none ∧
      after.get? ["a", "b", "c", "d"] = some (.text "3") ∧
      after.get? ["z"] = t.get? ["z"] ∧ after.keysAt ["a"] = ["x", "b"] := by
  intro node t after
  have hstored : t.store ["a", "b", "c"] node = (.ok none, after) := by decide
  obtain ⟨-, hprevious, -, hbelow, -, hapart, hkeys⟩ := store_lawful hstored
  exact ⟨hstored, hprevious.symm, hbelow ["d"] (by decide), hapart ["z"] (by decide),
    hkeys ["a"] (by decide)⟩

end Tree
end Phrasebook
