import Phrasebook.Proofs.Tree.Spots
import Phrasebook.Tree.Leaves

/-!
The shape of trees as their spots show it. Only subtrees have spots behind them, a write keeps trees
well formed, and two well-formed trees with the same spots are equal.
-/
namespace Phrasebook.Tree

theorem spot?_of_get? {t : Tree} {path : KeyPath} {node : Node} (h : t.get? path = some node) :
    t.spot? path = some node.spot := by
  simpa using spot?_append h []

theorem ne_nil_of_get? {t : Tree} {path : KeyPath} {node : Node} (h : t.get? path = some node) :
    path ≠ [] := by
  rintro rfl
  cases h

theorem exists_get?_of_spot? {t : Tree} {path : KeyPath} {s : Spot} (hpath : path ≠ [])
    (h : t.spot? path = some s) : ∃ node, t.get? path = some node ∧ node.spot = s := by
  cases hget : t.get? path with
  | none => rw [spot?_eq_none hpath hget] at h; cases h
  | some node =>
    rw [spot?_of_get? hget] at h
    exact ⟨node, rfl, Option.some.inj h⟩

theorem getLeaf?_eq_some_iff {t : Tree} {path : KeyPath} {value : Phrase} :
    t.getLeaf? path = some value ↔ t.spot? path = some (.leaf value) := by
  rw [getLeaf?]
  constructor
  · intro h
    obtain ⟨node, hget, hleaf⟩ := Option.bind_eq_some_iff.mp h
    cases node with
    | leaf found =>
      cases hleaf
      exact spot?_of_get? hget
    | subtree children => cases hleaf
  · intro h
    cases path with
    | nil => cases h
    | cons key path =>
      obtain ⟨node, hget, hspot⟩ := exists_get?_of_spot? (by simp) h
      rw [hget, Node.eq_leaf_of_spot hspot]
      rfl

/-- Only a subtree leads further. -/
theorem exists_inner {t : Tree} {q rest : KeyPath} {s : Spot} (hrest : rest ≠ [])
    (h : t.spot? (q ++ rest) = some s) : ∃ names, t.spot? q = some (.inner names) := by
  induction q generalizing t with
  | nil => exact ⟨t.keys, rfl⟩
  | cons key q ih =>
    rw [List.cons_append, spot?_cons] at h
    rw [spot?_cons]
    cases hfind : t.find? key with
    | none => simp [hfind] at h
    | some node =>
      cases node with
      | leaf value => simp [hfind, Node.spot?, hrest] at h
      | subtree children =>
        rw [hfind] at h
        exact ih h

theorem exists_inner_above {t : Tree} {q path : KeyPath} {s : Spot} (hpre : q <+: path)
    (hne : q ≠ path) (h : t.spot? path = some s) : ∃ names, t.spot? q = some (.inner names) := by
  obtain ⟨rest, rfl⟩ := hpre
  exact exists_inner (by simpa using hne) h

def IsLeaf (t : Tree) (q : KeyPath) : Prop :=
  ∃ value, t.getLeaf? q = some value

theorem isLeaf_iff {t : Tree} {q : KeyPath} :
    t.IsLeaf q ↔ ∃ value, t.spot? q = some (.leaf value) := by
  simp [IsLeaf, getLeaf?_eq_some_iff]

theorem isLeaf_iff_get? {t : Tree} {q : KeyPath} :
    t.IsLeaf q ↔ ∃ value, t.get? q = some (.leaf value) := by
  simp only [IsLeaf, getLeaf?, Option.bind_eq_some_iff]
  constructor
  · rintro ⟨value, node, hget, hleaf⟩
    cases node with
    | leaf found => exact ⟨found, hget⟩
    | subtree children => cases hleaf
  · rintro ⟨value, hget⟩
    exact ⟨value, .leaf value, hget, rfl⟩

theorem spot?_eq_none_of_isLeaf {t : Tree} {q path : KeyPath} (h : t.IsLeaf q)
    (hpre : q <+: path) (hne : q ≠ path) : t.spot? path = none := by
  obtain ⟨value, hvalue⟩ := isLeaf_iff.mp h
  cases hspot : t.spot? path with
  | none => rfl
  | some s =>
    obtain ⟨names, hnames⟩ := exists_inner_above hpre hne hspot
    rw [hvalue] at hnames
    cases hnames

theorem isLeaf_cons_iff {t children : Tree} {key : String} {q : KeyPath}
    (hfind : t.find? key = some (.subtree children)) : t.IsLeaf (key :: q) ↔ children.IsLeaf q := by
  simp only [isLeaf_iff, spot?_cons, hfind]
  rfl

theorem IsLeaf.ne_nil {t : Tree} {q : KeyPath} (h : t.IsLeaf q) : q ≠ [] := by
  rintro rfl
  obtain ⟨value, hvalue⟩ := h
  cases hvalue

/-- A path leads to one leaf at most, and ends there. -/
theorem IsLeaf.eq_of_prefix {t : Tree} {p q : KeyPath} (hp : t.IsLeaf p) (hq : t.IsLeaf q)
    (hpre : p <+: q) : p = q := by
  by_contra hne
  obtain ⟨value, hvalue⟩ := isLeaf_iff.mp hq
  rw [spot?_eq_none_of_isLeaf hp hpre hne] at hvalue
  cases hvalue

theorem WellFormed.find? {t : Tree} {key : String} {node : Node} (h : t.WellFormed)
    (hfind : t.find? key = some node) : node.WellFormed := by
  induction t with
  | nil => cases hfind
  | leaf k value rest ih =>
    rw [Tree.find?] at hfind
    split_ifs at hfind with hk
    · cases hfind
      exact h.2.1
    · exact ih h.2.2 hfind
  | branch k children rest _ ih =>
    rw [Tree.find?] at hfind
    split_ifs at hfind with hk
    · cases hfind
      exact h.2.1
    · exact ih h.2.2 hfind

theorem WellFormed.get? {t : Tree} {path : KeyPath} {node : Node} (h : t.WellFormed)
    (hget : t.get? path = some node) : node.WellFormed := by
  induction path generalizing t with
  | nil => cases hget
  | cons key path ih =>
    cases path with
    | nil =>
      rw [Tree.get?] at hget
      exact h.find? hget
    | cons k path =>
      rw [get?_cons_cons] at hget
      obtain ⟨found, hfind, hget⟩ := Option.bind_eq_some_iff.mp hget
      cases found with
      | leaf value => cases hget
      | subtree children => exact ih (h.find? hfind) hget

theorem WellFormed.put {t : Tree} {node : Node} (h : t.WellFormed) (hnode : node.WellFormed)
    (key : String) : (t.put key node).WellFormed := by
  induction t with
  | nil => exact wellFormed_cons_iff.mpr ⟨by simp, hnode, trivial⟩
  | leaf k value rest ih =>
    rw [Tree.put]
    split_ifs with hk
    · exact wellFormed_cons_iff.mpr ⟨hk ▸ h.1, hnode, h.2.2⟩
    · refine ⟨?_, h.2.1, ih h.2.2⟩
      rw [keys_put]
      split_ifs <;> simp [h.1, hk]
  | branch k children rest _ ih =>
    rw [Tree.put]
    split_ifs with hk
    · exact wellFormed_cons_iff.mpr ⟨hk ▸ h.1, hnode, h.2.2⟩
    · refine ⟨?_, h.2.1, ih h.2.2⟩
      rw [keys_put]
      split_ifs <;> simp [h.1, hk]

theorem WellFormed.childrenOf {t : Tree} (h : t.WellFormed) (key : String) :
    (t.childrenOf key).WellFormed := by
  rw [Tree.childrenOf]
  cases hfind : t.find? key with
  | none => trivial
  | some node =>
    cases node with
    | leaf value => trivial
    | subtree children => exact h.find? hfind

theorem WellFormed.place {t : Tree} {node : Node} (h : t.WellFormed) (hnode : node.WellFormed)
    (path : KeyPath) : (t.place node path).WellFormed := by
  induction path generalizing t with
  | nil => exact h
  | cons key path ih =>
    cases path with
    | nil => exact h.put hnode key
    | cons k path =>
      rw [place_cons_cons]
      have hinner : (Node.subtree ((t.childrenOf key).place node (k :: path))).WellFormed :=
        ih (h.childrenOf key)
      exact h.put hinner key

theorem find?_eq_none {t : Tree} {key : String} (h : key ∉ t.keys) : t.find? key = none := by
  rwa [mem_keys_iff, Option.not_isSome_iff_eq_none] at h

theorem spot?_cons_cons (key k : String) (node : Node) (rest : Tree) (q : KeyPath) :
    (cons key node rest).spot? (k :: q) =
      if key = k then node.spot? q else rest.spot? (k :: q) := by
  rw [spot?_cons, find?_cons, spot?_cons]
  split_ifs <;> rfl

/-- Trees with equal spots have equal spots behind their first entry. -/
theorem spot?_rest_eq {key : String} {n m : Node} {s t : Tree} (hs : key ∉ s.keys)
    (ht : key ∉ t.keys) (hkeys : s.keys = t.keys)
    (h : ∀ q, (cons key n s).spot? q = (cons key m t).spot? q) (q : KeyPath) :
    s.spot? q = t.spot? q := by
  cases q with
  | nil => rw [spot?_nil, spot?_nil, hkeys]
  | cons k q =>
    by_cases hk : key = k
    · subst hk
      rw [spot?_cons, spot?_cons, find?_eq_none hs, find?_eq_none ht]
    · simpa [spot?_cons_cons, hk] using h (k :: q)

theorem eq_cons_of_keys {t : Tree} {key : String} {names : List String}
    (h : key :: names = t.keys) : ∃ node rest, t = cons key node rest ∧ names = rest.keys := by
  cases t with
  | nil => cases h
  | leaf k value rest =>
    obtain ⟨rfl, rfl⟩ := List.cons.inj h
    exact ⟨.leaf value, rest, rfl, rfl⟩
  | branch k children rest =>
    obtain ⟨rfl, rfl⟩ := List.cons.inj h
    exact ⟨.subtree children, rest, rfl, rfl⟩

/-- The spots of a well-formed tree determine it. -/
theorem WellFormed.ext {s t : Tree} (hs : s.WellFormed) (ht : t.WellFormed)
    (h : ∀ q, s.spot? q = t.spot? q) : s = t := by
  have hkeys : s.keys = t.keys := by simpa using h []
  induction s generalizing t with
  | nil =>
    cases t with
    | nil => rfl
    | leaf key value rest => cases hkeys
    | branch key children rest => cases hkeys
  | leaf key value s ih =>
    obtain ⟨node, rest, rfl, hrest⟩ := eq_cons_of_keys hkeys
    obtain ⟨hfresh, -, hrestwf⟩ := wellFormed_cons_iff.mp ht
    have hnode (q : KeyPath) : (Node.leaf value).spot? q = node.spot? q := by
      simpa [spot?_cons_cons] using
        (spot?_cons_cons key key (.leaf value) s q).symm.trans (h (key :: q))
    have hs' := ih hs.2.2 hrestwf (spot?_rest_eq (n := .leaf value) hs.1 hfresh hrest h) hrest
    cases node with
    | leaf found =>
      cases hnode []
      rw [hs']
      rfl
    | subtree children => cases hnode []
  | branch key mine s ihc ihr =>
    obtain ⟨node, rest, rfl, hrest⟩ := eq_cons_of_keys hkeys
    obtain ⟨hfresh, hchildren, hrestwf⟩ := wellFormed_cons_iff.mp ht
    have hnode (q : KeyPath) : (Node.subtree mine).spot? q = node.spot? q := by
      simpa [spot?_cons_cons] using
        (spot?_cons_cons key key (.subtree mine) s q).symm.trans (h (key :: q))
    have hs' := ihr hs.2.2 hrestwf (spot?_rest_eq (n := .subtree mine) hs.1 hfresh hrest h) hrest
    cases node with
    | leaf found => cases hnode []
    | subtree children =>
      rw [hs', ihc hs.2.1 hchildren hnode (by simpa [Node.spot] using hnode [])]
      rfl

theorem find?_of_notMem_cons {key k : String} {node found : Node} {rest : Tree}
    (hkey : key ∉ rest.keys) (h : rest.find? k = some found) :
    (cons key node rest).find? k = some found := by
  have hk : key ≠ k := by
    rintro rfl
    rw [find?_eq_none hkey] at h
    cases h
  rw [find?_cons, if_neg hk, h]

theorem spot?_of_rest {key : String} {rest : Tree} {q : KeyPath} {value : Phrase}
    (hkey : key ∉ rest.keys) (node : Node) (h : rest.spot? q = some (.leaf value)) :
    (cons key node rest).spot? q = some (.leaf value) := by
  cases q with
  | nil => cases h
  | cons k q =>
    rw [spot?_cons] at h ⊢
    obtain ⟨found, hfind, h⟩ := Option.bind_eq_some_iff.mp h
    rw [find?_of_notMem_cons hkey hfind]
    exact h

/-- Every enumerated leaf stands at its path. -/
theorem spot?_of_mem_leavesBelow {t : Tree} (ht : t.WellFormed) {trail path : KeyPath}
    {value : Phrase} (h : (path, value) ∈ t.leavesBelow trail) :
    ∃ q, path = trail ++ q ∧ t.spot? q = some (.leaf value) := by
  induction t generalizing trail with
  | nil => cases h
  | leaf key found rest ih =>
    rcases List.mem_cons.mp h with heq | hrest
    · cases heq
      exact ⟨[key], rfl, by simp [spot?_cons, find?, Node.spot?]⟩
    · obtain ⟨q, rfl, hq⟩ := ih ht.2.2 hrest
      exact ⟨q, rfl, spot?_of_rest ht.1 (.leaf found) hq⟩
  | branch key children rest ihc ihr =>
    rcases List.mem_append.mp h with hinner | hrest
    · obtain ⟨q, rfl, hq⟩ := ihc ht.2.1 hinner
      exact ⟨key :: q, by simp [KeyPath.child], by simpa [spot?_cons, find?, Node.spot?] using hq⟩
    · obtain ⟨q, rfl, hq⟩ := ihr ht.2.2 hrest
      exact ⟨q, rfl, spot?_of_rest ht.1 (.subtree children) hq⟩

theorem spot?_of_mem_leaves {t : Tree} (ht : t.WellFormed) {path : KeyPath} {value : Phrase}
    (h : (path, value) ∈ t.leaves) : t.spot? path = some (.leaf value) := by
  obtain ⟨q, rfl, hq⟩ := spot?_of_mem_leavesBelow ht h
  exact hq

/-- Every leaf is enumerated with the path it stands at. -/
theorem mem_leavesBelow_of_spot? {t : Tree} {q : KeyPath} {value : Phrase}
    (h : t.spot? q = some (.leaf value)) (trail : KeyPath) :
    (trail ++ q, value) ∈ t.leavesBelow trail := by
  induction t generalizing trail q with
  | nil =>
    cases q with
    | nil => cases h
    | cons key q => cases h
  | leaf key found rest ih =>
    cases q with
    | nil => cases h
    | cons k q =>
      rw [leavesBelow]
      by_cases hk : key = k
      · subst hk
        simp only [spot?_cons, find?, if_true, Option.bind_some, Node.spot?] at h
        split_ifs at h with hq
        cases h
        rw [List.isEmpty_iff.mp hq]
        exact List.mem_cons_self
      · rw [spot?_cons, find?, if_neg hk, ← spot?_cons] at h
        exact List.mem_cons_of_mem _ (ih h trail)
  | branch key children rest ihc ihr =>
    cases q with
    | nil => cases h
    | cons k q =>
      rw [leavesBelow, List.mem_append]
      by_cases hk : key = k
      · subst hk
        simp only [spot?_cons, find?, if_true, Option.bind_some, Node.spot?] at h
        left
        simpa [KeyPath.child] using ihc h (trail.child key)
      · rw [spot?_cons, find?, if_neg hk, ← spot?_cons] at h
        exact .inr (ihr h trail)

theorem mem_leaves_iff {t : Tree} (ht : t.WellFormed) {path : KeyPath} {value : Phrase} :
    (path, value) ∈ t.leaves ↔ t.getLeaf? path = some value := by
  rw [getLeaf?_eq_some_iff]
  exact ⟨spot?_of_mem_leaves ht, fun h => mem_leavesBelow_of_spot? h []⟩

def leafPaths (t : Tree) : List KeyPath :=
  t.leaves.map Prod.fst

theorem mem_leafPaths_iff {t : Tree} (ht : t.WellFormed) {path : KeyPath} :
    path ∈ t.leafPaths ↔ t.IsLeaf path := by
  simp [leafPaths, IsLeaf, mem_leaves_iff ht]

end Phrasebook.Tree
