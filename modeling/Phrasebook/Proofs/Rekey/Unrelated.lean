import Phrasebook.Proofs.Rekey.Locales
import Phrasebook.Proofs.Tree.Storing

/-!
Moves between paths neither of which leads through the other. Nothing but the two places changes, and
a key that was moved to a free place can be moved back.
-/
namespace Phrasebook
namespace Rekey

variable {r : Rekey} {t moved : Tree} {node : Node} {q : KeyPath}

/-- A move in place reports what became of the tree, which stays as it is unless the move is done. -/
theorem applyInPlace_eq (r : Rekey) (t : Tree) :
    r.applyInPlace t =
      match r.apply t with
      | .ok (.moved moved) => (.ok .moved, moved)
      | .ok .skipped => (.ok .skipped, t)
      | .error e => (.error e, t) := by
  rw [applyInPlace, apply]
  cases t.get? r.old with
  | none => rfl
  | some node =>
    simp only [Tree.store_eq]
    cases t.set r.new node <;> rfl

theorem applyInPlace_eq_moved_iff :
    r.applyInPlace t = (.ok .moved, moved) ↔ r.apply t = .ok (.moved moved) := by
  rw [applyInPlace_eq]
  cases r.apply t with
  | error e => simp
  | ok outcome => cases outcome <;> simp

theorem outcome_eq_skipped_iff :
    (r.applyInPlace t).1 = .ok .skipped ↔ r.apply t = .ok .skipped := by
  rw [applyInPlace_eq]
  cases r.apply t with
  | error e => simp
  | ok outcome => cases outcome <;> simp

theorem outcome_eq_error_iff {e : RekeyError} :
    (r.applyInPlace t).1 = .error e ↔ r.apply t = .error e := by
  rw [applyInPlace_eq]
  cases r.apply t with
  | error e => simp
  | ok outcome => cases outcome <;> simp

theorem eq_of_outcome_ne_moved (h : (r.applyInPlace t).1 ≠ .ok .moved) :
    (r.applyInPlace t).2 = t := by
  rw [applyInPlace_eq] at h ⊢
  cases happly : r.apply t with
  | error e => rfl
  | ok outcome =>
    cases outcome with
    | skipped => rfl
    | moved tree => simp [happly] at h

theorem apply_eq_error_iff {e : RekeyError} :
    r.apply t = .error e ↔
      ∃ node cause, t.get? r.old = some node ∧ t.set r.new node = .error cause ∧
        e = .collision r.oldKey r.newKey cause := by
  rw [apply]
  cases hget : t.get? r.old with
  | none => simp
  | some node =>
    cases hset : t.set r.new node with
    | error cause => simp [hset, @eq_comm _ _ e]
    | ok written => simp [hset]

/-- What a move leaves of a tree when neither path leads through the other. -/
structure Relocates (r : Rekey) (before after : Tree) : Prop where
  /-- What was at the old path is at the new one, with all that is in it. -/
  atNew : ∀ rest, after.get? (r.new ++ rest) = before.get? (r.old ++ rest)
  /-- A copy stays at the old path, a moved node is gone. -/
  atOld : ∀ rest, after.get? (r.old ++ rest) = if r.copy then before.get? (r.old ++ rest) else none
  elsewhere : ∀ q, r.old.Incomparable q → r.new.Incomparable q → after.get? q = before.get? q
  /-- The subtrees above both places stay, or have been created. -/
  above : ∀ q, q ≠ [] → (q <+: r.old ∧ q ≠ r.old ∨ q <+: r.new ∧ q ≠ r.new) →
    ∃ children, after.get? q = some (.subtree children)
  /-- Every level keeps its keys in order, but for the old key of a move, and a new one goes last. -/
  keys : ∀ q, ¬r.old <+: q → ¬r.new <+: q →
    after.keysAt q =
      ((before.keysAt q).filter fun key => r.copy ∨ q ++ [key] ≠ r.old) ++ before.newKeys r.new q

theorem get?_append_congr {s t : Tree} {p q : KeyPath} (hs : s.get? p = some node)
    (ht : t.get? q = some node) (rest : KeyPath) : s.get? (p ++ rest) = t.get? (q ++ rest) := by
  by_cases hrest : rest = []
  · simp [hrest, hs, ht]
  · rw [Tree.get?_append hrest hs, Tree.get?_append hrest ht]

theorem relocates_of_moved (ht : t.WellFormed) (hpaths : r.old.Incomparable r.new)
    (h : r.apply t = .ok (.moved moved)) : r.Relocates t moved := by
  obtain ⟨node, hget, hfree, rfl⟩ := apply_eq_moved_iff.mp h
  have hwritten := ht.place (ht.get? hget) r.new
  have hnew : (t.place node r.new).get? r.new = some node := Tree.get?_place_self r.new_ne_nil node
  have hapart (rest : KeyPath) : r.new.meet (r.old ++ rest) = .apart :=
    KeyPath.meet_eq_apart_iff.mpr (hpaths.symm.append rest)
  have hold (rest : KeyPath) :
      (t.place node r.new).get? (r.old ++ rest) = t.get? (r.old ++ rest) :=
    Tree.get?_place_apart (hapart rest) t node
  refine ⟨fun rest => ?_, fun rest => ?_, fun q hq hq' => ?_, fun q hq habove => ?_,
    fun q hq hq' => ?_⟩
  · have hstored := get?_append_congr hnew hget rest
    have hbelow := KeyPath.meet_eq_apart_iff.mpr (hpaths.append rest)
    split_ifs
    · exact hstored
    · rw [Tree.get?_unset_apart hbelow, hstored]
  · split_ifs
    · exact hold rest
    · exact Tree.get?_unset_below hwritten r.old_ne_nil rest
  · have hplaced := Tree.get?_place_apart (KeyPath.meet_eq_apart_iff.mpr hq') t node
    split_ifs
    · exact hplaced
    · rw [Tree.get?_unset_apart (KeyPath.meet_eq_apart_iff.mpr hq), hplaced]
  · have hkept : ¬r.old <+: q := by
      intro hpre
      rcases habove with ⟨hq', hne⟩ | ⟨hq', hne⟩
      · exact hne (hq'.eq_of_length_le hpre.length_le)
      · exact hpaths.1 (hpre.trans hq')
    have hstored : (t.place node r.new).get? r.old = some node := by simpa [hget] using hold []
    obtain ⟨children, hchildren⟩ :
        ∃ children, (t.place node r.new).get? q = some (.subtree children) := by
      rcases habove with ⟨hpre, hne⟩ | ⟨hpre, hne⟩
      · exact Tree.exists_subtree_above hstored hq hpre hne
      · exact Tree.exists_subtree_above hnew hq hpre hne
    split_ifs
    · exact ⟨children, hchildren⟩
    · exact Tree.exists_subtree_unset hchildren hkept
  · have hplaced := Tree.keysAt_place r.new_ne_nil hfree hq'
    split_ifs with hcopy
    · rw [hplaced, List.filter_eq_self.mpr (by simp [hcopy])]
    · have hfresh : ((t.newKeys r.new q).filter fun key => q ++ [key] ≠ r.old) =
          t.newKeys r.new q := by
        refine List.filter_eq_self.mpr fun key hkey => decide_eq_true fun heq => hpaths.1 ?_
        rw [← heq]
        exact Tree.append_prefix_of_mem_newKeys hkey
      rw [Tree.keysAt_unset hwritten hq, hplaced, List.filter_append, hfresh]
      simp [hcopy]

def reversed (r : Rekey) : Rekey :=
  { r with oldKey := r.newKey, newKey := r.oldKey }

theorem old_reversed (r : Rekey) : r.reversed.old = r.new := rfl

theorem new_reversed (r : Rekey) : r.reversed.new = r.old := rfl

/-- Nothing stops the way back: the subtrees above the old path are still there, and the place is
free. -/
theorem collision?_of_relocates (h : r.Relocates t moved) (hcopy : r.copy = false) (kind : NodeKind) :
    moved.collision? kind r.old = none := by
  rw [Tree.collision?_eq_none_iff r.old_ne_nil]
  intro q
  cases hmeet : r.old.meet q with
  | apart => trivial
  | covers rest =>
    obtain rfl := KeyPath.meet_eq_covers_iff.mp hmeet
    cases rest with
    | cons key rest => trivial
    | nil =>
      have hgone : moved.get? r.old = none := by simpa [hcopy] using h.atOld []
      simp [Spot.Admits, Tree.spot?_eq_none r.old_ne_nil hgone]
  | leads next =>
    intro value hvalue
    cases q with
    | nil => cases hvalue
    | cons key q =>
      obtain ⟨children, hchildren⟩ :=
        h.above (key :: q) (by simp) (.inl (KeyPath.exists_leads_iff.mp ⟨next, hmeet⟩))
      rw [Tree.spot?_of_get? hchildren] at hvalue
      cases hvalue

/-- A key that was moved to a free place can be moved back, and every leaf is then where it was. -/
theorem exists_restored (ht : t.WellFormed) (hpaths : r.old.Incomparable r.new)
    (hcopy : r.copy = false) (hfree : t.get? r.new = none)
    (h : r.apply t = .ok (.moved moved)) :
    ∃ restored, r.reversed.apply moved = .ok (.moved restored) ∧
      ∀ leaf, leaf ∈ restored.leaves ↔ leaf ∈ t.leaves := by
  have hmoved := wellFormed_moved ht h
  have hrelocated := relocates_of_moved ht hpaths h
  obtain ⟨node, hget, -⟩ := apply_eq_moved_iff.mp h
  have hnode : moved.get? r.reversed.old = some node := by
    simpa [hget, old_reversed] using hrelocated.atNew []
  have hback : r.reversed.apply moved =
      .ok (.moved ((moved.place node r.old).unset r.new)) :=
    apply_eq_moved_iff.mpr ⟨node, hnode, collision?_of_relocates hrelocated hcopy node.kind,
      if_neg (by simp [reversed, hcopy])⟩
  refine ⟨_, hback, fun ⟨q, value⟩ => ?_⟩
  have hcarried (rest : KeyPath) : moved.getLeaf? (r.new ++ rest) = t.getLeaf? (r.old ++ rest) := by
    rw [Tree.getLeaf?, Tree.getLeaf?, hrelocated.atNew]
  rw [Tree.mem_leaves_iff (wellFormed_moved hmoved hback), Tree.mem_leaves_iff ht,
    getLeaf?_moved_iff hmoved hback, old_reversed, new_reversed]
  constructor
  · rintro ⟨hkept, ⟨rest, rfl, hleaf⟩ | ⟨hold, hleaf⟩⟩
    · rwa [hcarried] at hleaf
    · obtain ⟨-, ⟨rest, rfl, -⟩ | ⟨-, hsame⟩⟩ := (getLeaf?_moved_iff ht h).mp hleaf
      · simp [reversed, hcopy] at hkept
      · exact hsame
  · intro hleaf
    have hnew : ¬r.new <+: q := fun hpre => not_isLeaf_below r.new_ne_nil hfree hpre ⟨value, hleaf⟩
    refine ⟨.inr hnew, ?_⟩
    by_cases hold : r.old <+: q
    · obtain ⟨rest, rfl⟩ := hold
      exact .inl ⟨rest, rfl, (hcarried rest).trans hleaf⟩
    · exact .inr ⟨hold, (getLeaf?_moved_iff ht h).mpr ⟨.inr hold, .inr ⟨hnew, hleaf⟩⟩⟩

/-- A move between paths neither of which leads through the other. The tree stays as it is when it
lacks the old key or the node does not fit at the new path, and else changes at the two places only.
A move to a free place can be taken back. -/
theorem applyInPlace_between_unrelated (ht : t.WellFormed) (hpaths : r.old.Incomparable r.new) :
    let outcome := (r.applyInPlace t).1
    let after := (r.applyInPlace t).2
    (outcome = .ok .skipped ↔ t.get? r.old = none) ∧
      (∀ e, outcome = .error e ↔
        ∃ node cause, t.get? r.old = some node ∧ t.set r.new node = .error cause ∧
          e = .collision r.oldKey r.newKey cause) ∧
      (outcome ≠ .ok .moved → after = t) ∧
      (outcome = .ok .moved →
        r.Relocates t after ∧
          (r.copy = false → t.get? r.new = none →
            ∃ restored, r.reversed.applyInPlace after = (.ok .moved, restored) ∧
              ∀ leaf, leaf ∈ restored.leaves ↔ leaf ∈ t.leaves)) := by
  intro outcome after
  refine ⟨?_, ?_, ?_, ?_⟩
  · exact outcome_eq_skipped_iff.trans apply_eq_skipped_iff
  · intro e
    exact outcome_eq_error_iff.trans apply_eq_error_iff
  · exact eq_of_outcome_ne_moved
  · intro hmoved
    have happly : r.apply t = .ok (.moved after) := applyInPlace_eq_moved_iff.mp (Prod.ext hmoved rfl)
    refine ⟨relocates_of_moved ht hpaths happly, fun hcopy hfree => ?_⟩
    obtain ⟨restored, hback, hleaves⟩ := exists_restored ht hpaths hcopy hfree happly
    exact ⟨restored, applyInPlace_eq_moved_iff.mpr hback, hleaves⟩

/-- A subtree that leaves its parent empty and goes below a new one, and comes back. -/
theorem emptied_parent_stays :
    let r : Rekey := ⟨"a|b", "c|d", "|", false, .forbid⟩
    let inner : Tree := .leaf "x" (.text "1") .nil
    let t : Tree := .branch "a" (.branch "b" inner .nil) (.leaf "e" (.text "2") .nil)
    let after : Tree := .branch "a" .nil
      (.leaf "e" (.text "2") (.branch "c" (.branch "d" inner .nil) .nil))
    (t.WellFormed ∧ r.old.Incomparable r.new ∧ r.applyInPlace t = (.ok .moved, after) ∧
        t.get? r.new = none) ∧
      after.get? (r.new ++ ["x"]) = some (.text "1") ∧ after.get? (r.old ++ []) = none ∧
      after.get? ["e"] = some (.text "2") ∧ after.keysAt [] = ["a", "e", "c"] ∧
      ∃ restored, r.reversed.applyInPlace after = (.ok .moved, restored) ∧
        ∀ leaf, leaf ∈ restored.leaves ↔ leaf ∈ t.leaves := by
  intro r inner t after
  have ht : t.WellFormed := by simp [t, inner, Tree.WellFormed, Phrase.WellFormed]
  have hpaths : r.old.Incomparable r.new := by decide
  have happly : r.applyInPlace t = (.ok .moved, after) := by decide
  have hfree : t.get? r.new = none := by decide
  have hall := applyInPlace_between_unrelated ht hpaths
  rw [happly] at hall
  obtain ⟨hplaces, hback⟩ := hall.2.2.2 rfl
  have hkeys := hplaces.keys [] (by decide) (by decide)
  exact ⟨⟨ht, hpaths, happly, hfree⟩, (hplaces.atNew ["x"]).trans (by decide), hplaces.atOld [],
    hplaces.elsewhere ["e"] (by decide) (by decide), hkeys.trans (by decide), hback rfl hfree⟩

end Rekey
end Phrasebook
