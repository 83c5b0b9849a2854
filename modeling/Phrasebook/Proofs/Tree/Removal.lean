import Phrasebook.Proofs.Tree.Shape

/-!
What a removal leaves of a tree. Nothing remains at or below the path, the nodes above it lose what
was there, and all other nodes stay.
-/
namespace Phrasebook

def Node.get? : Node → KeyPath → Option Node
  | .leaf _, _ => none
  | .subtree children, path => children.get? path

def Node.unset (path : KeyPath) : Node → Node
  | .leaf value => .leaf value
  | .subtree children => .subtree (children.unset path)

@[simp] theorem Node.leaf?_unset (path : KeyPath) (node : Node) :
    (node.unset path).leaf? = node.leaf? := by
  cases node <;> rfl

namespace Tree

theorem keys_erase (key : String) (t : Tree) : (t.erase key).keys = t.keys.erase key := by
  induction t with
  | nil => rfl
  | leaf k value rest ih =>
    rw [erase, keys_leaf, List.erase_cons]
    by_cases hk : k = key <;> simp [hk, ih]
  | branch k children rest _ ih =>
    rw [erase, keys_branch, List.erase_cons]
    by_cases hk : k = key <;> simp [hk, ih]

theorem find?_erase_of_ne {key k : String} (h : key ≠ k) (t : Tree) :
    (t.erase key).find? k = t.find? k := by
  induction t with
  | nil => rfl
  | leaf j value rest ih =>
    by_cases hj : j = key
    · simp [erase, find?, hj, h]
    · simp [erase, find?, hj, ih]
  | branch j children rest _ ih =>
    by_cases hj : j = key
    · simp [erase, find?, hj, h]
    · simp [erase, find?, hj, ih]

theorem find?_erase_self {t : Tree} (h : t.WellFormed) (key : String) :
    (t.erase key).find? key = none := by
  apply find?_eq_none
  rw [keys_erase]
  exact h.nodup_keys.not_mem_erase

theorem erase_of_find?_none {t : Tree} {key : String} (h : t.find? key = none) :
    t.erase key = t := by
  induction t with
  | nil => rfl
  | leaf k value rest ih =>
    rw [find?] at h
    split_ifs at h with hk
    rw [erase, if_neg hk, ih h]
  | branch k children rest _ ih =>
    rw [find?] at h
    split_ifs at h with hk
    rw [erase, if_neg hk, ih h]

theorem put_of_find? {t : Tree} {key : String} {node : Node} (h : t.find? key = some node) :
    t.put key node = t := by
  induction t with
  | nil => cases h
  | leaf k value rest ih =>
    rw [find?] at h
    rw [put]
    split_ifs at h ⊢ with hk
    · cases h
      rw [hk]
      rfl
    · rw [ih h]
  | branch k children rest _ ih =>
    rw [find?] at h
    rw [put]
    split_ifs at h ⊢ with hk
    · cases h
      rw [hk]
      rfl
    · rw [ih h]

theorem WellFormed.erase {t : Tree} (h : t.WellFormed) (key : String) :
    (t.erase key).WellFormed := by
  induction t with
  | nil => trivial
  | leaf k value rest ih =>
    rw [Tree.erase]
    split_ifs with hk
    · exact h.2.2
    · refine ⟨?_, h.2.1, ih h.2.2⟩
      rw [keys_erase]
      exact fun hmem => h.1 (List.mem_of_mem_erase hmem)
  | branch k children rest _ ih =>
    rw [Tree.erase]
    split_ifs with hk
    · exact h.2.2
    · refine ⟨?_, h.2.1, ih h.2.2⟩
      rw [keys_erase]
      exact fun hmem => h.1 (List.mem_of_mem_erase hmem)

theorem unset_cons_cons (t : Tree) (key k : String) (path : KeyPath) :
    t.unset (key :: k :: path) =
      match t.find? key with
      | some (.subtree children) => t.put key (.subtree (children.unset (k :: path)))
      | _ => t := rfl

theorem get?_append {t : Tree} {path rest : KeyPath} {node : Node} (hrest : rest ≠ [])
    (h : t.get? path = some node) : t.get? (path ++ rest) = node.get? rest := by
  induction path generalizing t with
  | nil => cases h
  | cons key path ih =>
    obtain ⟨next, rest, rfl⟩ := List.exists_cons_of_ne_nil hrest
    cases path with
    | nil =>
      rw [get?] at h
      rw [List.singleton_append, get?_cons_cons, h]
      cases node <;> rfl
    | cons k path =>
      rw [get?_cons_cons] at h
      rw [List.cons_append, List.cons_append, get?_cons_cons]
      obtain ⟨found, hfind, h⟩ := Option.bind_eq_some_iff.mp h
      rw [hfind]
      cases found with
      | leaf value => cases h
      | subtree children => exact ih h

theorem get?_cons_of_subtree {t children : Tree} {key : String} {path : KeyPath}
    (hfind : t.find? key = some (.subtree children)) (hpath : path ≠ []) :
    t.get? (key :: path) = children.get? path := by
  have hkey : t.get? [key] = some (.subtree children) := hfind
  exact get?_append hpath hkey

theorem get?_place_self {t : Tree} {path : KeyPath} (hpath : path ≠ []) (node : Node) :
    (t.place node path).get? path = some node := by
  induction path generalizing t with
  | nil => exact absurd rfl hpath
  | cons key path ih =>
    cases path with
    | nil => exact find?_put_self key node t
    | cons k path =>
      rw [place_cons_cons, get?_cons_cons, find?_put_self]
      exact ih (by simp)

theorem get?_childrenOf (t : Tree) (key k : String) (path : KeyPath) :
    (t.childrenOf key).get? (k :: path) = t.get? (key :: k :: path) := by
  rw [get?_cons_cons, childrenOf]
  cases t.find? key with
  | none => cases path <;> rfl
  | some node =>
    cases node with
    | leaf value => cases path <;> rfl
    | subtree children => rfl

theorem get?_congr {s t : Tree} {key : String} (h : s.find? key = t.find? key) (path : KeyPath) :
    s.get? (key :: path) = t.get? (key :: path) := by
  cases path with
  | nil => exact h
  | cons k path => rw [get?_cons_cons, get?_cons_cons, h]

/-- A write leaves what stands apart from its path. -/
theorem get?_place_apart {path q : KeyPath} (h : path.meet q = .apart) (t : Tree) (node : Node) :
    (t.place node path).get? q = t.get? q := by
  induction path generalizing t q with
  | nil => rfl
  | cons key path ih =>
    cases q with
    | nil => rfl
    | cons j q =>
      cases path with
      | nil =>
        have hne : key ≠ j := by
          rintro rfl
          simp [KeyPath.meet] at h
        exact get?_congr (find?_put_of_ne hne node t) q
      | cons k path =>
        rw [place_cons_cons]
        by_cases hne : key = j
        · subst hne
          have hmeet : KeyPath.meet (k :: path) q = .apart := by simpa [KeyPath.meet] using h
          cases q with
          | nil => cases hmeet
          | cons i q =>
            rw [get?_cons_cons, find?_put_self, ← get?_childrenOf]
            exact ih hmeet (t.childrenOf key)
        · exact get?_congr (find?_put_of_ne hne _ t) q

theorem WellFormed.unset {t : Tree} (h : t.WellFormed) (path : KeyPath) :
    (t.unset path).WellFormed := by
  induction path generalizing t with
  | nil => exact h
  | cons key path ih =>
    cases path with
    | nil => exact h.erase key
    | cons k path =>
      rw [unset_cons_cons]
      split
      · rename_i children hfind
        have hchildren : (Node.subtree children).WellFormed := h.find? hfind
        have hinner : (Node.subtree (children.unset (k :: path))).WellFormed := ih hchildren
        exact h.put hinner key
      · exact h

theorem unset_of_get?_none {t : Tree} {path : KeyPath} (h : t.get? path = none) :
    t.unset path = t := by
  induction path generalizing t with
  | nil => rfl
  | cons key path ih =>
    cases path with
    | nil => exact erase_of_find?_none h
    | cons k path =>
      rw [get?_cons_cons] at h
      rw [unset_cons_cons]
      split
      · rename_i children hfind
        rw [hfind] at h
        rw [ih h, put_of_find? hfind]
      · rfl

/-- Nothing is left at or below a removed path. -/
theorem get?_unset_below {t : Tree} (ht : t.WellFormed) {path : KeyPath} (hpath : path ≠ [])
    (rest : KeyPath) : (t.unset path).get? (path ++ rest) = none := by
  induction path generalizing t with
  | nil => exact absurd rfl hpath
  | cons key path ih =>
    cases path with
    | nil =>
      have hgone := find?_erase_self ht key
      cases rest with
      | nil => exact hgone
      | cons k rest =>
        rw [List.singleton_append, get?_cons_cons, unset, hgone]
        rfl
    | cons k path =>
      rw [List.cons_append, List.cons_append, get?_cons_cons, unset_cons_cons]
      cases hfind : t.find? key with
      | none => simp [hfind]
      | some node =>
        cases node with
        | leaf value => simp [hfind]
        | subtree children =>
          have hchildren : (Node.subtree children).WellFormed := ht.find? hfind
          rw [find?_put_self]
          exact ih hchildren (by simp)

/-- The nodes above a removed path lose what was at the rest of it. -/
theorem get?_unset_above {rest : KeyPath} (hrest : rest ≠ []) (t : Tree) (q : KeyPath) :
    (t.unset (q ++ rest)).get? q = (t.get? q).map (Node.unset rest) := by
  induction q generalizing t with
  | nil => rfl
  | cons key q ih =>
    obtain ⟨next, rest, rfl⟩ := List.exists_cons_of_ne_nil hrest
    cases q with
    | nil =>
      rw [List.singleton_append, unset_cons_cons, get?, get?]
      cases hfind : t.find? key with
      | none => simp [hfind]
      | some node =>
        cases node with
        | leaf value => simp [hfind, Node.unset]
        | subtree children => simp [find?_put_self, Node.unset]
    | cons k q =>
      rw [List.cons_append, List.cons_append, unset_cons_cons, get?_cons_cons, get?_cons_cons]
      cases hfind : t.find? key with
      | none => simp [hfind]
      | some node =>
        cases node with
        | leaf value => simp [hfind]
        | subtree children =>
          rw [find?_put_self]
          exact ih children

theorem get?_unset_apart {path q : KeyPath} (h : path.meet q = .apart) (t : Tree) :
    (t.unset path).get? q = t.get? q := by
  induction path generalizing t q with
  | nil => rfl
  | cons key path ih =>
    cases q with
    | nil => rfl
    | cons j q =>
      cases path with
      | nil =>
        have hne : key ≠ j := by
          rintro rfl
          simp [KeyPath.meet] at h
        exact get?_congr (find?_erase_of_ne hne t) q
      | cons k path =>
        rw [unset_cons_cons]
        split
        · rename_i children hfind
          by_cases hne : key = j
          · subst hne
            have hmeet : KeyPath.meet (k :: path) q = .apart := by simpa [KeyPath.meet] using h
            cases q with
            | nil => cases hmeet
            | cons i q =>
              rw [get?_cons_cons, get?_cons_cons, find?_put_self, hfind]
              exact ih hmeet children
          · exact get?_congr (find?_put_of_ne hne _ t) q
        · rfl

/-- A removal takes the leaves at or below its path, and no others. -/
theorem getLeaf?_unset {t : Tree} (ht : t.WellFormed) {path : KeyPath} (hpath : path ≠ [])
    (q : KeyPath) : (t.unset path).getLeaf? q = if path <+: q then none else t.getLeaf? q := by
  rw [getLeaf?, getLeaf?]
  cases hmeet : path.meet q with
  | covers rest =>
    obtain rfl := KeyPath.meet_eq_covers_iff.mp hmeet
    rw [if_pos (List.prefix_append path rest), get?_unset_below ht hpath]
    rfl
  | leads next =>
    obtain ⟨rest, rfl⟩ := KeyPath.meet_eq_leads_iff.mp hmeet
    rw [if_neg (KeyPath.not_prefix_of_leads hmeet), get?_unset_above (by simp)]
    cases t.get? q <;> simp
  | apart => rw [if_neg (KeyPath.not_prefix_of_apart hmeet), get?_unset_apart hmeet]

end Tree
end Phrasebook
