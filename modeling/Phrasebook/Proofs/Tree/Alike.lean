import Phrasebook.Proofs.Tree.Leafy

/-!
Trees that are the same but for the order of their entries and of their plural forms.
-/
namespace Phrasebook

inductive Spot.Alike : Spot → Spot → Prop
  | text (value : String) : Alike (.leaf (.text value)) (.leaf (.text value))
  | plural {a b : Plural} (h : a.forms.Perm b.forms) :
    Alike (.leaf (.plural a)) (.leaf (.plural b))
  | inner {a b : List String} (h : a.Perm b) : Alike (.inner a) (.inner b)

theorem Spot.Alike.refl (spot : Spot) : spot.Alike spot := by
  cases spot with
  | leaf value =>
    cases value with
    | text value => exact .text value
    | plural record => exact .plural (.refl _)
  | inner names => exact .inner (.refl _)

def Node.Alike (n m : Node) : Prop :=
  ∀ path, Option.Rel Spot.Alike (n.spot? path) (m.spot? path)

namespace Tree

/-- Whether every path leads to the same in two trees, up to order. -/
def Alike (s t : Tree) : Prop :=
  ∀ path, Option.Rel Spot.Alike (s.spot? path) (t.spot? path)

/-- Whether two trees differ in the order of their entries only. -/
def Reordered (s t : Tree) : Prop :=
  s.Alike t ∧ ∀ path, s.getLeaf? path = t.getLeaf? path

theorem Alike.perm_keys {s t : Tree} (h : s.Alike t) : s.keys.Perm t.keys := by
  have hroot := h []
  rw [spot?_nil, spot?_nil] at hroot
  cases hroot with
  | some hkeys =>
    cases hkeys with
    | inner hperm => exact hperm

theorem Alike.find? {s t : Tree} (h : s.Alike t) (key : String) :
    Option.Rel Node.Alike (s.find? key) (t.find? key) := by
  have hpath (path : KeyPath) := h (key :: path)
  simp only [spot?_cons] at hpath
  cases hs : s.find? key with
  | none =>
    cases ht : t.find? key with
    | none => exact .none
    | some node =>
      have hnil := hpath []
      rw [hs, ht, Option.bind_none, Option.bind_some, Node.spot?_nil] at hnil
      cases hnil
  | some node =>
    cases ht : t.find? key with
    | none =>
      have hnil := hpath []
      rw [hs, ht, Option.bind_none, Option.bind_some, Node.spot?_nil] at hnil
      cases hnil
    | some other =>
      rw [hs, ht] at hpath
      exact .some hpath

theorem Alike.spot?_text_iff {s t : Tree} (h : s.Alike t) {path : KeyPath} {value : String} :
    s.spot? path = some (.leaf (.text value)) ↔ t.spot? path = some (.leaf (.text value)) := by
  have hpath := h path
  constructor
  · intro hs
    rw [hs] at hpath
    generalize t.spot? path = spot at hpath ⊢
    cases hpath with
    | some htext =>
      cases htext
      rfl
  · intro ht
    rw [ht] at hpath
    generalize s.spot? path = spot at hpath ⊢
    cases hpath with
    | some htext =>
      cases htext
      rfl

/-- Nodes that are alike are of the same kind. -/
theorem leaves_or_subtrees {n m : Node} (h : n.Alike m) :
    (∃ a b, n = .leaf a ∧ m = .leaf b) ∨
      ∃ a b : Tree, n = .subtree a ∧ m = .subtree b ∧ a.Alike b := by
  have hroot := h []
  rw [Node.spot?_nil, Node.spot?_nil] at hroot
  cases hroot with
  | some hspots =>
    cases n with
    | leaf a =>
      cases m with
      | leaf b => exact .inl ⟨a, b, rfl, rfl⟩
      | subtree b => cases hspots
    | subtree a =>
      cases m with
      | leaf b => cases hspots
      | subtree b => exact .inr ⟨a, b, rfl, rfl, h⟩

theorem nodup_names {t : Tree} (ht : t.WellFormed) {path : KeyPath} {names : List String}
    (h : t.spot? path = some (.inner names)) : names.Nodup := by
  cases path with
  | nil =>
    cases h
    exact ht.nodup_keys
  | cons key path =>
    obtain ⟨node, hget, hnode⟩ := exists_get?_of_spot? (List.cons_ne_nil key path) h
    cases node with
    | leaf value => cases hnode
    | subtree children =>
      cases hnode
      exact WellFormed.nodup_keys (t := children) (ht.get? hget)

/-- A name stands at an inner spot exactly if something is found behind it. -/
theorem mem_names_iff {t : Tree} {path : KeyPath} {names : List String} {next : String}
    (h : t.spot? path = some (.inner names)) :
    next ∈ names ↔ (t.spot? (path ++ [next])).isSome := by
  have hkeys (children : Tree) :
      next ∈ children.keys ↔ (children.spot? [next]).isSome := by
    rw [mem_keys_iff, spot?_cons]
    cases children.find? next <;> simp
  cases path with
  | nil =>
    cases h
    exact hkeys t
  | cons key path =>
    obtain ⟨node, hget, hnode⟩ := exists_get?_of_spot? (List.cons_ne_nil key path) h
    cases node with
    | leaf value => cases hnode
    | subtree children =>
      cases hnode
      rw [spot?_append hget]
      exact hkeys children

theorem isSome_spot?_iff {t : Tree} (ht : t.WellFormed) (hleafy : t.Leafy) {path : KeyPath}
    (hpath : path ≠ []) :
    (t.spot? path).isSome ↔ ∃ rest value, t.spot? (path ++ rest) = some (.leaf value) := by
  constructor
  · intro hsome
    obtain ⟨spot, hspot⟩ := Option.isSome_iff_exists.mp hsome
    cases spot with
    | leaf value => exact ⟨[], value, by rw [List.append_nil, hspot]⟩
    | inner names => exact (leafy_iff_spot ht).mp hleafy path names hpath hspot
  · rintro ⟨rest, value, hvalue⟩
    cases rest with
    | nil =>
      rw [List.append_nil] at hvalue
      rw [hvalue]
      rfl
    | cons next rest =>
      obtain ⟨names, hnames⟩ := exists_inner (List.cons_ne_nil next rest) hvalue
      rw [hnames]
      rfl

/-- Trees are alike where the same paths lead somewhere, and to the same leaves. -/
theorem alike_of_spots {s t : Tree} (hs : s.WellFormed) (ht : t.WellFormed)
    (hsome : ∀ path, (s.spot? path).isSome ↔ (t.spot? path).isSome)
    (hleaf : ∀ path value,
      s.spot? path = some (.leaf value) ↔ t.spot? path = some (.leaf value)) : s.Alike t := by
  have hinner {path : KeyPath} {a b : List String} (ha : s.spot? path = some (.inner a))
      (hb : t.spot? path = some (.inner b)) : a.Perm b := by
    refine (List.perm_ext_iff_of_nodup (nodup_names hs ha) (nodup_names ht hb)).mpr fun next => ?_
    rw [mem_names_iff ha, mem_names_iff hb, hsome]
  intro path
  cases hspot : s.spot? path with
  | none =>
    have hnone : t.spot? path = none := by
      rw [← Option.not_isSome_iff_eq_none, ← hsome, hspot]
      simp
    rw [hnone]
    exact .none
  | some spot =>
    have hother := (hsome path).mp (by rw [hspot]; rfl)
    obtain ⟨other, hother⟩ := Option.isSome_iff_exists.mp hother
    rw [hother]
    cases spot with
    | leaf value =>
      rw [(hleaf path value).mp hspot] at hother
      cases hother
      exact .some (.refl _)
    | inner names =>
      cases other with
      | leaf value =>
        rw [(hleaf path value).mpr hother] at hspot
        cases hspot
      | inner more => exact .some (.inner (hinner hspot hother))

/-- Where every subtree has a leaf, trees with the same leaves are alike. -/
theorem alike_of_leaves {s t : Tree} (hs : s.WellFormed) (ht : t.WellFormed) (hs' : s.Leafy)
    (ht' : t.Leafy)
    (h : ∀ path value, s.spot? path = some (.leaf value) ↔ t.spot? path = some (.leaf value)) :
    s.Alike t := by
  refine alike_of_spots hs ht (fun path => ?_) h
  by_cases hpath : path = []
  · rw [hpath, spot?_nil, spot?_nil]
    simp
  · rw [isSome_spot?_iff hs hs' hpath, isSome_spot?_iff ht ht' hpath]
    simp only [h]

end Tree
end Phrasebook
