import Phrasebook.Proofs.Splitting
import Phrasebook.Proofs.Tree.Removal
import Phrasebook.Rekey

/-!
Moving a node by its key. It is stored at the new path before the old path is cleared, so a move
between paths that overlap can take away what it has just stored.
-/
namespace Phrasebook

theorem Node.unset_eq_self_iff {node : Node} (h : node.WellFormed) {rest : KeyPath}
    (hrest : rest ≠ []) : node.unset rest = node ↔ node.get? rest = none := by
  cases node with
  | leaf value => exact iff_of_true rfl rfl
  | subtree children =>
    rw [Node.unset, Node.get?, Node.subtree.injEq]
    constructor
    · intro hsame
      rw [← hsame]
      simpa using Tree.get?_unset_below h hrest []
    · exact Tree.unset_of_get?_none

namespace Rekey

variable {r : Rekey} {t moved : Tree}

theorem new_ne_nil (r : Rekey) : r.new ≠ [] :=
  KeyPath.parse_ne_nil r.separator r.newKey

theorem old_ne_nil (r : Rekey) : r.old ≠ [] :=
  KeyPath.parse_ne_nil r.separator r.oldKey

/-- What a move does: the node of the old key is stored at the new one, if it fits there. -/
theorem apply_eq_moved_iff :
    r.apply t = .ok (.moved moved) ↔
      ∃ node, t.get? r.old = some node ∧ t.collision? node.kind r.new = none ∧
        (if r.copy then t.place node r.new else (t.place node r.new).unset r.old) = moved := by
  rw [apply]
  cases hget : t.get? r.old with
  | none => simp
  | some node =>
    cases hcollision : t.collision? node.kind r.new with
    | none => simp [Tree.set_of_free r.new_ne_nil hcollision, hcollision]
    | some collision => simp [Tree.set_of_collision hcollision, hcollision]

/-- What is at the new path once the old path has been cleared too. -/
theorem get?_new_unset_old {written : Tree} (hwritten : written.WellFormed) {node : Node}
    (hnode : node.WellFormed) (hnew : written.get? r.new = some node) :
    (written.unset r.old).get? r.new = some node ↔
      ¬r.old <+: r.new ∧ ∀ rest, r.old = r.new ++ rest → node.get? rest = none := by
  cases hmeet : r.old.meet r.new with
  | covers rest =>
    have heq := KeyPath.meet_eq_covers_iff.mp hmeet
    rw [heq, Tree.get?_unset_below hwritten r.old_ne_nil]
    simp
  | leads next =>
    obtain ⟨rest, heq⟩ := KeyPath.meet_eq_leads_iff.mp hmeet
    rw [heq, Tree.get?_unset_above (by simp), hnew, Option.map_some, Option.some.injEq,
      Node.unset_eq_self_iff hnode (by simp)]
    constructor
    · intro hfree
      refine ⟨heq ▸ KeyPath.not_prefix_of_leads hmeet, fun tail htail => ?_⟩
      rwa [← List.append_cancel_left htail]
    · exact fun h => h.2 _ rfl
  | apart =>
    rw [Tree.get?_unset_apart hmeet]
    refine iff_of_true hnew ⟨KeyPath.not_prefix_of_apart hmeet, fun rest heq => ?_⟩
    cases rest with
    | nil => simp [heq] at hmeet
    | cons next rest =>
      rw [KeyPath.meet_eq_leads_iff.mpr ⟨rest, heq⟩] at hmeet
      cases hmeet

/-- A move leaves the node at the new path as it was at the old one exactly when it is a copy, or
the new path is not below the old one and the node has nothing of its own where the old path goes on
from the new one. -/
theorem moved_node_kept_iff (ht : t.WellFormed) (h : r.apply t = .ok (.moved moved)) :
    moved.get? r.new = t.get? r.old ↔
      r.copy ∨ ¬r.old <+: r.new ∧
        ∀ rest, r.old = r.new ++ rest → t.get? (r.old ++ rest) = none := by
  obtain ⟨node, hnode, -, rfl⟩ := apply_eq_moved_iff.mp h
  have hstored := Tree.get?_place_self (t := t) r.new_ne_nil node
  by_cases hcopy : r.copy
  · rw [if_pos hcopy, hstored, hnode]
    exact iff_of_true rfl (.inl hcopy)
  · have hwf := ht.get? hnode
    rw [if_neg hcopy, hnode, get?_new_unset_old (ht.place hwf r.new) hwf hstored,
      or_iff_right hcopy]
    refine and_congr_right fun hpre => forall_congr' fun rest => imp_congr_right fun heq => ?_
    have hrest : rest ≠ [] := by
      rintro rfl
      exact hpre (by simp [heq])
    rw [Tree.get?_append hrest hnode]

/-- A subtree that takes the place of its parent. -/
theorem nested_node_kept :
    let r : Rekey := ⟨"a|b", "a", "|", false, .allow⟩
    let t : Tree := .branch "a" (.branch "b" (.leaf "x" (.text "1") .nil) .nil) .nil
    let moved : Tree := .branch "a" (.leaf "x" (.text "1") .nil) .nil
    t.WellFormed ∧ r.apply t = .ok (.moved moved) ∧ moved.get? r.new = t.get? r.old := by
  intro r t moved
  have ht : t.WellFormed := by simp [t, Tree.WellFormed, Phrase.WellFormed]
  have happly : r.apply t = .ok (.moved moved) := by decide
  refine ⟨ht, happly, (moved_node_kept_iff ht happly).mpr (.inr ⟨by decide, fun rest heq => ?_⟩)⟩
  have hold : r.old = r.new ++ ["b"] := by decide
  obtain rfl := List.append_cancel_left (hold.symm.trans heq)
  decide

/-- A subtree that is moved below itself is gone. -/
theorem node_moved_below_itself_lost :
    ¬∀ (r : Rekey) (t moved : Tree), t.WellFormed → r.check t = .ok () →
      r.apply t = .ok (.moved moved) → moved.get? r.new = t.get? r.old := by
  intro hall
  let r : Rekey := ⟨"a", "a|b", "|", false, .forbid⟩
  let t : Tree := .branch "a" (.leaf "x" (.text "1") .nil) .nil
  have ht : t.WellFormed := by simp [t, Tree.WellFormed, Phrase.WellFormed]
  have hlost := hall r t .nil ht (by decide) (by decide)
  exact absurd hlost (by decide)

end Rekey
end Phrasebook
