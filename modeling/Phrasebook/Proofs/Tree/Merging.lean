import Phrasebook.Proofs.Tree.Shape
import Phrasebook.Tree.Merge

/-!
What a deep merge leaves in place. Leaves of the addition are all there afterwards, and a leaf of
the first tree stays where the addition has room for it.
-/
namespace Phrasebook

def Node.mergeOnto (under : Option Node) : Node → Node
  | .leaf value => .leaf value
  | .subtree children =>
    match under with
    | some (.subtree mine) => .subtree (mine.merge children)
    | _ => .subtree children

theorem Node.mergeOnto_subtree (under : Option Node) (children : Tree) :
    (∃ mine, under = some (.subtree mine) ∧
        (Node.subtree children).mergeOnto under = .subtree (mine.merge children)) ∨
      (∀ mine, under ≠ some (.subtree mine)) ∧
        (Node.subtree children).mergeOnto under = .subtree children := by
  cases under with
  | none => exact .inr ⟨by simp, rfl⟩
  | some node =>
    cases node with
    | leaf value => exact .inr ⟨by simp, rfl⟩
    | subtree mine => exact .inl ⟨mine, rfl, rfl⟩

namespace Tree

variable {s t : Tree} {q : KeyPath} {value : Phrase}

theorem merge_cons (key : String) (node : Node) (rest : Tree) :
    s.merge (cons key node rest) = (s.put key (node.mergeOnto (s.find? key))).merge rest := by
  cases node with
  | leaf value => rfl
  | subtree children =>
    rw [cons, merge]
    rcases Node.mergeOnto_subtree (s.find? key) children with ⟨mine, hfind, heq⟩ | ⟨hnone, heq⟩
    · rw [heq, hfind]
    · rw [heq]
      split
      · rename_i mine hfind
        exact absurd hfind (hnone mine)
      · rfl

theorem WellFormed.merge (hs : s.WellFormed) (ht : t.WellFormed) : (s.merge t).WellFormed := by
  induction t generalizing s with
  | nil => exact hs
  | leaf key value rest ih =>
    have hnode : (Node.leaf value).WellFormed := ht.2.1
    exact ih (hs.put hnode key) ht.2.2
  | branch key children rest ihc ihr =>
    have hnode : ((Node.subtree children).mergeOnto (s.find? key)).WellFormed := by
      rcases Node.mergeOnto_subtree (s.find? key) children with ⟨mine, hfind, heq⟩ | ⟨-, heq⟩
      · have hmine : (Node.subtree mine).WellFormed := hs.find? hfind
        rw [heq]
        exact ihc hmine ht.2.1
      · rw [heq]
        exact ht.2.1
    exact (merge_cons key (.subtree children) rest) ▸ ihr (hs.put hnode key) ht.2.2

theorem WellFormed.mergeOnto (hs : s.WellFormed) {node : Node} (hnode : node.WellFormed)
    (key : String) : (node.mergeOnto (s.find? key)).WellFormed := by
  cases node with
  | leaf value => exact hnode
  | subtree children =>
    rcases Node.mergeOnto_subtree (s.find? key) children with ⟨mine, hfind, heq⟩ | ⟨-, heq⟩
    · have hmine : (Node.subtree mine).WellFormed := hs.find? hfind
      rw [heq]
      exact WellFormed.merge hmine hnode
    · rw [heq]
      exact hnode

theorem find?_merge_cons {rest : Tree} {k key : String} (hfresh : k ∉ rest.keys) (node : Node)
    (ih : ∀ s : Tree, (s.merge rest).find? key =
      ((rest.find? key).map (Node.mergeOnto (s.find? key))).or (s.find? key)) :
    (s.merge (cons k node rest)).find? key =
      (((cons k node rest).find? key).map (Node.mergeOnto (s.find? key))).or (s.find? key) := by
  rw [merge_cons, ih, find?_put, find?_cons]
  split_ifs with hk
  · rw [← hk, find?_eq_none hfresh]
    rfl
  · rfl

/-- Merging goes entry by entry. -/
theorem find?_merge (ht : t.WellFormed) (key : String) :
    (s.merge t).find? key =
      ((t.find? key).map (Node.mergeOnto (s.find? key))).or (s.find? key) := by
  induction t generalizing s with
  | nil => rfl
  | leaf k value rest ih => exact find?_merge_cons ht.1 (.leaf value) fun _ => ih ht.2.2
  | branch k children rest _ ih => exact find?_merge_cons ht.1 (.subtree children) fun _ => ih ht.2.2

/-- A leaf of the addition wins. -/
theorem spot?_merge_of_addition (ht : t.WellFormed) (h : t.spot? q = some (.leaf value)) :
    (s.merge t).spot? q = some (.leaf value) := by
  induction q generalizing s t with
  | nil => cases h
  | cons key q ih =>
    rw [spot?_cons] at h ⊢
    obtain ⟨node, hfind, h⟩ := Option.bind_eq_some_iff.mp h
    rw [find?_merge ht, hfind, Option.map_some, Option.some_or, Option.bind_some]
    cases node with
    | leaf found => exact h
    | subtree children =>
      rcases Node.mergeOnto_subtree (s.find? key) children with ⟨mine, -, heq⟩ | ⟨-, heq⟩
      · rw [heq]
        exact ih (ht.find? hfind) h
      · rw [heq]
        exact h

/-- A leaf stays unless the addition has a leaf at its path, a leaf above it or a subtree there. -/
theorem spot?_merge_of_room (ht : t.WellFormed) (h : s.spot? q = some (.leaf value))
    (hroom : t.collision? .phrase q = none) (hnone : ¬t.IsLeaf q) :
    (s.merge t).spot? q = some (.leaf value) := by
  induction q generalizing s t with
  | nil => cases h
  | cons key q ih =>
    rw [isLeaf_iff] at hnone
    rw [spot?_cons] at h hnone ⊢
    obtain ⟨mine, hmine, h⟩ := Option.bind_eq_some_iff.mp h
    rw [find?_merge ht, hmine]
    cases hfind : t.find? key with
    | none => exact h
    | some node =>
      rw [hfind, Option.bind_some] at hnone
      rw [Option.map_some, Option.some_or, Option.bind_some]
      cases q with
      | nil =>
        -- A leaf is excluded by `hnone`, and a subtree leaves no room.
        cases node with
        | leaf found => exact absurd ⟨found, rfl⟩ hnone
        | subtree children => simp [collision?, hfind, Node.kind] at hroom
      | cons k q =>
        rw [collision?_cons_cons, hfind] at hroom
        cases node with
        | leaf found => cases hroom
        | subtree children =>
          cases mine with
          | leaf found => cases h
          | subtree mine =>
            exact ih (ht.find? hfind) h hroom fun hleaf => hnone (isLeaf_iff.mp hleaf)

end Tree
end Phrasebook
