import Mathlib.Tactic.Common
import Phrasebook.Proofs.Tree.Encoding
import Phrasebook.Tree.Access

/-!
Trees seen from their paths. The spot at a path is the leaf there, or the names below it in order.
A well-formed tree is determined by its spots, and a write changes each spot in its own way.
-/
namespace Phrasebook

/-- How a path meets a position: it covers the position, with a rest that leads on to it, it leads
further down through one of the names there, or neither. -/
inductive Meeting where
  | covers (rest : KeyPath)
  | leads (next : String)
  | apart
  deriving DecidableEq, Repr

def KeyPath.meet : (path q : KeyPath) → Meeting
  | [], q => .covers q
  | next :: _, [] => .leads next
  | key :: path, k :: q => if key = k then meet path q else .apart

/-- What a path leads to: a leaf, or the names of a subtree. -/
inductive Spot where
  | leaf (value : Phrase)
  | inner (names : List String)
  deriving DecidableEq, Repr

namespace KeyPath

theorem meet_eq_covers_iff {p q rest : KeyPath} : p.meet q = .covers rest ↔ q = p ++ rest := by
  induction p generalizing q with
  | nil => simp [meet, eq_comm]
  | cons key p ih =>
    cases q with
    | nil => simp [meet]
    | cons k q =>
      by_cases hk : key = k
      · simp [meet, hk, ih]
      · simp [meet, hk, Ne.symm hk]

theorem meet_eq_leads_iff {p q : KeyPath} {next : String} :
    p.meet q = .leads next ↔ ∃ rest, p = q ++ next :: rest := by
  induction p generalizing q with
  | nil => simp [meet]
  | cons key p ih =>
    cases q with
    | nil => simp [meet]
    | cons k q =>
      by_cases hk : key = k
      · simp [meet, hk, ih]
      · simp [meet, hk]

@[simp] theorem meet_self (p : KeyPath) : p.meet p = .covers [] :=
  meet_eq_covers_iff.mpr (by simp)

theorem prefix_iff_meet {p q : KeyPath} : p <+: q ↔ ∃ rest, p.meet q = .covers rest := by
  simp only [meet_eq_covers_iff]
  exact ⟨fun ⟨rest, h⟩ => ⟨rest, h.symm⟩, fun ⟨rest, h⟩ => ⟨rest, h.symm⟩⟩

theorem prefix_of_covers {p q rest : KeyPath} (h : p.meet q = .covers rest) : p <+: q :=
  prefix_iff_meet.mpr ⟨rest, h⟩

theorem not_prefix_of_leads {p q : KeyPath} {next : String} (h : p.meet q = .leads next) :
    ¬p <+: q := by
  simp [prefix_iff_meet, h]

theorem not_prefix_of_apart {p q : KeyPath} (h : p.meet q = .apart) : ¬p <+: q := by
  simp [prefix_iff_meet, h]

/-- A path leads through a position exactly when it goes on behind it. -/
theorem exists_leads_iff {p q : KeyPath} :
    (∃ next, p.meet q = .leads next) ↔ q <+: p ∧ q ≠ p := by
  simp only [meet_eq_leads_iff]
  constructor
  · rintro ⟨next, rest, rfl⟩
    exact ⟨⟨next :: rest, rfl⟩, by simp⟩
  · rintro ⟨⟨rest, rfl⟩, hne⟩
    cases rest with
    | nil => simp at hne
    | cons next rest => exact ⟨next, rest, rfl⟩

/-- Whether two paths differ and neither leads through the other. -/
def Incomparable (p q : KeyPath) : Prop :=
  ¬p <+: q ∧ ¬q <+: p

instance (p q : KeyPath) : Decidable (Incomparable p q) :=
  inferInstanceAs (Decidable (¬p <+: q ∧ ¬q <+: p))

theorem Incomparable.symm {p q : KeyPath} (h : Incomparable p q) : Incomparable q p :=
  ⟨h.2, h.1⟩

instance : Std.Symm Incomparable where
  symm _ _ h := h.symm

theorem Incomparable.ne_nil {p q : KeyPath} (h : Incomparable p q) : q ≠ [] := by
  rintro rfl
  exact h.2 List.nil_prefix

theorem Incomparable.append {p q : KeyPath} (h : Incomparable p q) (rest : KeyPath) :
    Incomparable p (q ++ rest) := by
  have hbelow := List.prefix_append q rest
  refine ⟨fun hpre => ?_, fun hpre => h.2 (hbelow.trans hpre)⟩
  rcases List.prefix_or_prefix_of_prefix hpre hbelow with hpq | hqp
  · exact h.1 hpq
  · exact h.2 hqp

theorem meet_eq_apart_iff {p q : KeyPath} : p.meet q = .apart ↔ Incomparable p q := by
  rw [Incomparable]
  cases hmeet : p.meet q with
  | covers rest => simp [prefix_of_covers hmeet]
  | leads next => simp [(exists_leads_iff.mp ⟨next, hmeet⟩).1]
  | apart =>
    have hbelow : ¬q <+: p := by
      intro hpre
      by_cases heq : q = p
      · rw [heq, meet_self] at hmeet
        cases hmeet
      · obtain ⟨next, hleads⟩ := exists_leads_iff.mpr ⟨hpre, heq⟩
        rw [hleads] at hmeet
        cases hmeet
    simp [not_prefix_of_apart hmeet, hbelow]

end KeyPath

namespace Spot

def kind : Spot → NodeKind
  | .leaf _ => .phrase
  | .inner _ => .subtree

def hasValue : Spot → Bool
  | .leaf value => (Node.leaf value).hasValue
  | .inner _ => true

/-- The names of a spot after one of them is used; a new one goes last. -/
def grow (next : String) : Option Spot → Spot
  | some (.inner names) => .inner (if next ∈ names then names else names ++ [next])
  | _ => .inner [next]

theorem exists_grow_eq (next : String) (spot : Option Spot) :
    ∃ names, grow next spot = .inner names ∧ next ∈ names := by
  rw [grow.eq_def]
  split
  · refine ⟨_, rfl, ?_⟩
    split_ifs with hnext <;> simp [hnext]
  · exact ⟨_, rfl, by simp⟩

/-- Whether a node of some kind can be stored past this spot, or on it. -/
def Admits (kind : NodeKind) (spot : Option Spot) : Meeting → Prop
  | .leads _ => ∀ value, spot ≠ some (.leaf value)
  | .covers [] => ∀ s, spot = some s → s.kind = kind
  | _ => True

end Spot

namespace Tree

/-- What a path leads to. The empty path leads to the tree itself. -/
def spot? (t : Tree) : KeyPath → Option Spot
  | [] => some (.inner t.keys)
  | key :: path =>
    match t.find? key with
    | none => none
    | some (.leaf value) => if path.isEmpty then some (.leaf value) else none
    | some (.subtree children) => children.spot? path

end Tree

def Node.spot? : Node → KeyPath → Option Spot
  | .leaf value, path => if path.isEmpty then some (.leaf value) else none
  | .subtree children, path => children.spot? path

def Node.spot : Node → Spot
  | .leaf value => .leaf value
  | .subtree children => .inner children.keys

@[simp] theorem Node.spot?_nil (node : Node) : node.spot? [] = some node.spot := by
  cases node <;> rfl

theorem Node.eq_leaf_of_spot {node : Node} {value : Phrase} (h : node.spot = .leaf value) :
    node = .leaf value := by
  cases node with
  | leaf found =>
    cases h
    rfl
  | subtree children => cases h

@[simp] theorem Node.kind_spot (node : Node) : node.spot.kind = node.kind := by
  cases node <;> rfl

@[simp] theorem Node.hasValue_spot (node : Node) : node.spot.hasValue = node.hasValue := by
  cases node <;> rfl

def Spot.after (node : Node) (spot : Option Spot) : Meeting → Option Spot
  | .covers rest => node.spot? rest
  | .leads next => some (.grow next spot)
  | .apart => spot

namespace Tree

@[simp] theorem spot?_nil (t : Tree) : t.spot? [] = some (.inner t.keys) := rfl

theorem spot?_cons (t : Tree) (key : String) (path : KeyPath) :
    t.spot? (key :: path) = (t.find? key).bind (·.spot? path) := by
  rw [spot?]
  split <;> simp_all [Node.spot?]

theorem spot?_empty (path : KeyPath) (h : path ≠ []) : nil.spot? path = none := by
  cases path with
  | nil => exact absurd rfl h
  | cons key path => rfl

theorem get?_cons_cons (t : Tree) (key k : String) (path : KeyPath) :
    t.get? (key :: k :: path) =
      (t.find? key).bind fun node =>
        match node with
        | .leaf _ => none
        | .subtree children => children.get? (k :: path) := by
  rw [get?]
  · cases t.find? key with
    | none => rfl
    | some node => cases node <;> rfl
  · simp

/-- A node found in a tree shows what the tree shows behind its path. -/
theorem spot?_append {t : Tree} {path : KeyPath} {node : Node} (h : t.get? path = some node)
    (rest : KeyPath) : t.spot? (path ++ rest) = node.spot? rest := by
  induction path generalizing t with
  | nil => cases h
  | cons key path ih =>
    cases path with
    | nil =>
      rw [get?] at h
      rw [List.singleton_append, spot?_cons, h]
      rfl
    | cons k path =>
      rw [get?_cons_cons] at h
      rw [List.cons_append, spot?_cons]
      cases hfind : t.find? key with
      | none => simp [hfind] at h
      | some n =>
        cases n with
        | leaf value => simp [hfind] at h
        | subtree children =>
          rw [hfind] at h
          exact ih h

theorem spot?_eq_none {t : Tree} {path : KeyPath} (hpath : path ≠ []) (h : t.get? path = none) :
    t.spot? path = none := by
  induction path generalizing t with
  | nil => exact absurd rfl hpath
  | cons key path ih =>
    rw [spot?_cons]
    cases path with
    | nil =>
      rw [get?] at h
      rw [h]
      rfl
    | cons k path =>
      rw [get?_cons_cons] at h
      cases hfind : t.find? key with
      | none => rfl
      | some n =>
        cases n with
        | leaf value => rfl
        | subtree children =>
          rw [hfind] at h
          exact ih (by simp) h

theorem mem_keys_iff {t : Tree} {key : String} : key ∈ t.keys ↔ (t.find? key).isSome := by
  induction t with
  | nil => simp [find?]
  | leaf k value rest ih =>
    by_cases hk : k = key
    · simp [find?, hk]
    · simp [find?, hk, ih, Ne.symm hk]
  | branch k children rest _ ih =>
    by_cases hk : k = key
    · simp [find?, hk]
    · simp [find?, hk, ih, Ne.symm hk]

theorem keys_put (key : String) (node : Node) (t : Tree) :
    (t.put key node).keys = if key ∈ t.keys then t.keys else t.keys ++ [key] := by
  induction t with
  | nil => simp [put]
  | leaf k value rest ih =>
    by_cases hk : k = key
    · simp [put, hk]
    · simp only [put, if_neg hk, keys_leaf, ih, List.mem_cons, Ne.symm hk, false_or]
      split_ifs <;> simp
  | branch k children rest _ ih =>
    by_cases hk : k = key
    · simp [put, hk]
    · simp only [put, if_neg hk, keys_branch, ih, List.mem_cons, Ne.symm hk, false_or]
      split_ifs <;> simp

theorem find?_put (key k : String) (node : Node) (t : Tree) :
    (t.put key node).find? k = if key = k then some node else t.find? k := by
  split_ifs with hk
  · rw [← hk, find?_put_self]
  · exact find?_put_of_ne hk node t

theorem spot?_put (key : String) (node : Node) (t : Tree) (q : KeyPath) :
    (t.put key node).spot? q = Spot.after node (t.spot? q) (KeyPath.meet [key] q) := by
  cases q with
  | nil => simp [KeyPath.meet, Spot.after, Spot.grow, keys_put]
  | cons k q =>
    rw [spot?_cons, spot?_cons, find?_put, KeyPath.meet]
    split_ifs with hk
    · simp [KeyPath.meet, Spot.after]
    · rfl

def childrenOf (t : Tree) (key : String) : Tree :=
  match t.find? key with
  | some (.subtree children) => children
  | _ => .nil

theorem place_cons_cons (t : Tree) (node : Node) (key k : String) (path : KeyPath) :
    t.place node (key :: k :: path) =
      t.put key (.subtree ((t.childrenOf key).place node (k :: path))) := by
  rw [place, childrenOf]
  · cases t.find? key with
    | none => rfl
    | some found => cases found <;> rfl
  · simp

theorem collision?_cons_cons (t : Tree) (kind : NodeKind) (key k : String) (path : KeyPath) :
    t.collision? kind (key :: k :: path) =
      match t.find? key with
      | some (.subtree children) => children.collision? kind (k :: path)
      | some (.leaf _) => some (key, .phrase)
      | none => none := rfl

/-- The root lets every path pass, and a path meets nothing below other keys than its first. -/
theorem admits_cons_iff {t : Tree} {kind : NodeKind} {key : String} {path : KeyPath} :
    (∀ q, Spot.Admits kind (t.spot? q) (KeyPath.meet (key :: path) q)) ↔
      ∀ q, Spot.Admits kind (t.spot? (key :: q)) (path.meet q) := by
  constructor
  · intro h q
    simpa [KeyPath.meet] using h (key :: q)
  · intro h q
    cases q with
    | nil => simp [KeyPath.meet, Spot.Admits]
    | cons k q =>
      by_cases hk : key = k
      · simpa [KeyPath.meet, hk] using h q
      · simp [KeyPath.meet, hk, Spot.Admits]

theorem admits_none (kind : NodeKind) (meeting : Meeting) : Spot.Admits kind none meeting := by
  cases meeting with
  | covers rest => cases rest <;> simp [Spot.Admits]
  | leads next => simp [Spot.Admits]
  | apart => trivial

/-- A write passes exactly where every spot it meets lets it through. -/
theorem collision?_eq_none_iff {t : Tree} {kind : NodeKind} {path : KeyPath} (hpath : path ≠ []) :
    t.collision? kind path = none ↔ ∀ q, Spot.Admits kind (t.spot? q) (path.meet q) := by
  induction path generalizing t with
  | nil => exact absurd rfl hpath
  | cons key path ih =>
    rw [admits_cons_iff]
    cases path with
    | nil =>
      have hrest : (∀ q, Spot.Admits kind (t.spot? (key :: q)) (KeyPath.meet [] q)) ↔
          ∀ s, t.spot? [key] = some s → s.kind = kind := by
        constructor
        · exact fun h => h []
        · rintro h (_ | ⟨k, q⟩)
          · exact h
          · trivial
      rw [hrest, spot?_cons, collision?]
      cases t.find? key with
      | none => simp
      | some node => by_cases hkind : node.kind = kind <;> simp [hkind]
    | cons k path =>
      rw [collision?_cons_cons]
      simp only [spot?_cons]
      cases t.find? key with
      | none => simp [admits_none]
      | some node =>
        cases node with
        | leaf value =>
          refine iff_of_false (by simp) fun h => ?_
          exact h [] value rfl
        | subtree children => exact ih (by simp)

/-- Nothing stops a write where a new branch begins. -/
theorem collision?_of_find?_none {t : Tree} {key : String} (h : t.find? key = none)
    (kind : NodeKind) (path : KeyPath) : t.collision? kind (key :: path) = none := by
  cases path with
  | nil => simp [collision?, h]
  | cons k path => rw [collision?_cons_cons, h]

/-- What is missing on the way of a write counts as an empty subtree. -/
theorem after_childrenOf {t : Tree} {key : String}
    (hleaf : ∀ value, t.find? key ≠ some (.leaf value)) (node : Node) (k : String)
    (path q : KeyPath) :
    Spot.after node ((t.childrenOf key).spot? q) (KeyPath.meet (k :: path) q) =
      Spot.after node (t.spot? (key :: q)) (KeyPath.meet (k :: path) q) := by
  rw [spot?_cons, childrenOf]
  cases hfind : t.find? key with
  | none =>
    cases q with
    | nil => rfl
    | cons j q => rfl
  | some found =>
    cases found with
    | leaf value => exact absurd hfind (hleaf value)
    | subtree children => rfl

/-- A write changes every spot as its path meets it. -/
theorem spot?_place {t : Tree} {node : Node} {path : KeyPath} (hpath : path ≠ [])
    (h : t.collision? node.kind path = none) (q : KeyPath) :
    (t.place node path).spot? q = Spot.after node (t.spot? q) (path.meet q) := by
  induction path generalizing t q with
  | nil => exact absurd rfl hpath
  | cons key path ih =>
    cases path with
    | nil => exact spot?_put key node t q
    | cons k path =>
      have hleaf (value : Phrase) : t.find? key ≠ some (.leaf value) := by
        intro hfind
        simp [collision?_cons_cons, hfind] at h
      have hinner : (t.childrenOf key).collision? node.kind (k :: path) = none := by
        rw [collision?_cons_cons] at h
        rw [childrenOf]
        cases hfind : t.find? key with
        | none => exact collision?_of_find?_none rfl node.kind path
        | some found =>
          cases found with
          | leaf value => exact absurd hfind (hleaf value)
          | subtree children => simpa [hfind] using h
      rw [place_cons_cons, spot?_put]
      cases q with
      | nil => rfl
      | cons j q =>
        by_cases hj : key = j
        · subst hj
          simp only [KeyPath.meet, if_pos]
          rw [← after_childrenOf hleaf]
          exact ih (by simp) hinner q
        · simp only [KeyPath.meet, if_neg hj, Spot.after]

/-- The leaves after a write are those of the stored node, and those that were not at or below its
path. -/
theorem spot?_place_eq_leaf_iff {t : Tree} {node : Node} {path q : KeyPath} {value : Phrase}
    (hpath : path ≠ []) (h : t.collision? node.kind path = none) :
    (t.place node path).spot? q = some (.leaf value) ↔
      (∃ rest, q = path ++ rest ∧ node.spot? rest = some (.leaf value)) ∨
        ¬path <+: q ∧ t.spot? q = some (.leaf value) := by
  have hadmits := (collision?_eq_none_iff hpath).mp h q
  rw [spot?_place hpath h]
  cases hmeet : path.meet q with
  | covers rest =>
    obtain rfl := KeyPath.meet_eq_covers_iff.mp hmeet
    simp [Spot.after]
  | leads next =>
    -- A subtree lies above the path, whether it was there before or not.
    obtain ⟨names, hgrow, -⟩ := Spot.exists_grow_eq next (t.spot? q)
    have hbefore : t.spot? q ≠ some (.leaf value) := by
      rw [hmeet] at hadmits
      exact hadmits value
    have hbelow (rest : KeyPath) : q ≠ path ++ rest := by
      rintro rfl
      simp [KeyPath.meet_eq_covers_iff.mpr rfl] at hmeet
    simp [Spot.after, hgrow, hbefore, hbelow]
  | apart =>
    have hapart := KeyPath.not_prefix_of_apart hmeet
    have hbelow (rest : KeyPath) : q ≠ path ++ rest := by
      rintro rfl
      exact hapart (List.prefix_append path rest)
    simp [Spot.after, hapart, hbelow]

theorem set_of_free {t : Tree} {node : Node} {path : KeyPath} (hpath : path ≠ [])
    (h : t.collision? node.kind path = none) : t.set path node = .ok (t.place node path) := by
  rw [set]
  · rw [h]
  · exact hpath

theorem set_of_collision {t : Tree} {node : Node} {path : KeyPath} {segment : String}
    {found : NodeKind} (h : t.collision? node.kind path = some (segment, found)) :
    t.set path node = .error (.collision path segment found) := by
  rw [set]
  · rw [h]
  · rintro rfl
    cases h

theorem set_eq_ok_iff {t written : Tree} {node : Node} {path : KeyPath} (hpath : path ≠ []) :
    t.set path node = .ok written ↔
      (∀ q, Spot.Admits node.kind (t.spot? q) (path.meet q)) ∧ t.place node path = written := by
  rw [← collision?_eq_none_iff hpath]
  cases hcollision : t.collision? node.kind path with
  | none => simp [set_of_free hpath hcollision]
  | some collision => simp [set_of_collision hcollision]

theorem exists_collision_of_set {t : Tree} {node : Node} {path : KeyPath} {cause : PathError}
    (hpath : path ≠ []) (h : t.set path node = .error cause) :
    ∃ segment found, cause = .collision path segment found := by
  cases hcollision : t.collision? node.kind path with
  | none =>
    rw [set_of_free hpath hcollision] at h
    cases h
  | some blocked =>
    rw [set_of_collision hcollision] at h
    cases h
    exact ⟨_, _, rfl⟩

end Tree
end Phrasebook
