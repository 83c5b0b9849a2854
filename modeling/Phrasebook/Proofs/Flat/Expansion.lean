import Mathlib.Data.List.Induction
import Phrasebook.Proofs.Flat.Collapsing
import Phrasebook.Proofs.Splitting
import Phrasebook.Proofs.Tree.Merging

/-!
The expansion of a flat tree as its entries are added one after the other: what one entry does, and
what holds of the expansion after any number of them.
-/
namespace Phrasebook.Tree

open KeyPath (baseKey)

theorem find?_place_cons_cons (t : Tree) (node : Node) (key k : String) (path : KeyPath)
    (j : String) :
    (t.place node (key :: k :: path)).find? j =
      if key = j then some (.subtree ((t.childrenOf key).place node (k :: path)))
      else t.find? j := by
  rw [place_cons_cons, find?_put]

namespace Expansion

variable {separator key : String} {node : Node} {e after : Expansion} {seen : List String}

/-- What adding an entry does: a plain leaf gives way to variants under its key, any other plain
entry is merged over what is there, and a joined key is placed along its path, in exchange for a
plain text or beside what is there, or kept as it is. -/
inductive Step (separator : String) (e : Expansion) (key : String) (node : Node) : Expansion → Prop
  | superseded {mine : Tree} {value : Phrase} (hplain : isJoined separator key = false)
    (hfind : e.tree.find? key = some (.subtree mine)) (hnode : node = .leaf value) :
    Step separator e key node { e with superseded := e.superseded ++ [key] }
  | merged (hplain : isJoined separator key = false)
    (hroom : node.kind = .phrase → ∀ mine, e.tree.find? key ≠ some (.subtree mine)) :
    Step separator e key node
      { e with tree := e.tree.put key (node.mergeOnto (e.tree.find? key)) }
  | exchanged {text : String} (hjoined : isJoined separator key)
    (hbase : e.tree.find? (baseKey separator key) = some (.text text)) :
    Step separator e key node
      { tree := (e.tree.erase (baseKey separator key)).place node (splitKey separator key)
        superseded := e.superseded ++ [baseKey separator key]
        bases := baseKey separator key :: e.bases }
  | placed (hjoined : isJoined separator key)
    (hbase : ∀ text, e.tree.find? (baseKey separator key) ≠ some (.text text))
    (hfree : e.tree.collision? node.kind (splitKey separator key) = none) :
    Step separator e key node
      { e with
        tree := e.tree.place node (splitKey separator key)
        bases := baseKey separator key :: e.bases }
  | verbatim {collision : String × NodeKind} (hjoined : isJoined separator key)
    (hbase : ∀ text, e.tree.find? (baseKey separator key) ≠ some (.text text))
    (hblocked : e.tree.collision? node.kind (splitKey separator key) = some collision) :
    Step separator e key node { e with tree := e.tree.put key node }

theorem addPlain_step (hplain : isJoined separator key = false) :
    Step separator e key node (e.addPlain key node) := by
  cases hfind : e.tree.find? key with
  | none =>
    have hmerged : Step separator e key node _ := .merged hplain (by simp [hfind])
    cases node <;> simpa [addPlain, hfind, Node.mergeOnto] using hmerged
  | some found =>
    cases found with
    | leaf value =>
      have hmerged : Step separator e key node _ := .merged hplain (by simp [hfind])
      cases node <;> simpa [addPlain, hfind, Node.mergeOnto] using hmerged
    | subtree mine =>
      cases node with
      | leaf value => simpa [addPlain, hfind] using Step.superseded hplain hfind rfl
      | subtree children =>
        have hmerged : Step separator e key (.subtree children) _ :=
          .merged hplain (by simp [Node.kind])
        simpa [addPlain, hfind, Node.mergeOnto] using hmerged

theorem supersede_of_text {base text : String} (h : e.tree.find? base = some (.text text)) :
    e.supersede base =
      { e with tree := e.tree.erase base, superseded := e.superseded ++ [base] } := by
  rw [supersede, h]
  rfl

theorem supersede_of_ne_text {base : String}
    (h : ∀ text, e.tree.find? base ≠ some (.text text)) : e.supersede base = e := by
  rw [supersede]
  split
  · rename_i text hfind
    exact absurd hfind (h text)
  · rfl

theorem addJoined_step (he : e.tree.WellFormed) (hjoined : isJoined separator key) :
    Step separator e key node (e.addJoined separator key node) := by
  obtain ⟨-, next, path, hsplit⟩ := splitKey_of_joined hjoined
  have hpath : splitKey separator key ≠ [] := by simp [hsplit]
  rw [addJoined]
  by_cases htext : ∃ text, e.tree.find? (baseKey separator key) = some (.text text)
  · obtain ⟨text, htext⟩ := htext
    -- With the text gone there is nothing left to collide with.
    have hfree : (e.tree.erase (baseKey separator key)).collision? node.kind
        (splitKey separator key) = none := by
      rw [hsplit]
      exact collision?_of_find?_none (find?_erase_self he _) _ _
    have hexchanged : Step separator e key node _ := .exchanged hjoined htext
    simpa [supersede_of_text htext, set_of_free hpath hfree] using hexchanged
  · simp only [not_exists] at htext
    simp only [supersede_of_ne_text htext]
    cases hcollision : e.tree.collision? node.kind (splitKey separator key) with
    | none =>
      simpa [set_of_free hpath hcollision] using Step.placed hjoined htext hcollision
    | some collision =>
      simpa [set_of_collision hcollision] using Step.verbatim hjoined htext hcollision

theorem add_step (he : e.tree.WellFormed) (separator key : String) (node : Node) :
    Step separator e key node (e.add separator (key, node)) := by
  rw [add]
  split_ifs with hjoined
  · exact addJoined_step he hjoined
  · exact addPlain_step (by simpa using hjoined)

theorem find?_place_joined {s : Tree} (hjoined : isJoined separator key) {k : String}
    (hk : k ≠ baseKey separator key) (node : Node) :
    (s.place node (splitKey separator key)).find? k = s.find? k := by
  obtain ⟨-, next, path, hsplit⟩ := splitKey_of_joined hjoined
  rw [hsplit, find?_place_cons_cons, if_neg (Ne.symm hk)]

/-- An entry leaves the other joined keys alone. -/
theorem Step.find?_joined (hstep : Step separator e key node after) {k : String}
    (hk : isJoined separator k) (hne : k ≠ key) : after.tree.find? k = e.tree.find? k := by
  have hbase (hjoined : isJoined separator key) : k ≠ baseKey separator key :=
    ne_baseKey_of_joined hk hjoined
  cases hstep with
  | superseded hplain hfind hnode => rfl
  | merged hplain hroom => exact find?_put_of_ne hne.symm _ _
  | exchanged hjoined htext =>
    rw [find?_place_joined hjoined (hbase hjoined), find?_erase_of_ne (hbase hjoined).symm]
  | placed hjoined htext hfree => exact find?_place_joined hjoined (hbase hjoined) node
  | verbatim hjoined htext hblocked => exact find?_put_of_ne hne.symm _ _

/-- What holds of an expansion after the entries with the keys `seen`. A key that had no entry of
its own is plain and holds the subtree that joined keys were placed in. -/
structure Good (separator : String) (seen : List String) (e : Expansion) : Prop where
  wellFormed : e.tree.WellFormed
  claimed (key : String) (node : Node) : e.tree.find? key = some node → key ∉ seen →
    isJoined separator key = false ∧ node.kind = .subtree
  plainBases : ∀ base ∈ e.bases, isJoined separator base = false

theorem good_start (separator : String) : Good separator [] .start :=
  ⟨trivial, by simp [start, find?], by simp [start]⟩

/-- A joined key that had no entry yet holds nothing. -/
theorem Good.notMem_keys (h : Good separator seen e) (hkey : key ∉ seen)
    (hjoined : isJoined separator key) : key ∉ e.tree.keys := by
  intro hmem
  obtain ⟨found, hfound⟩ := Option.isSome_iff_exists.mp (mem_keys_iff.mp hmem)
  rw [(h.claimed key found hfound hkey).1] at hjoined
  cases hjoined

/-- Where a key that had no entry yet holds something, a subtree is merged over a subtree. -/
theorem Good.exists_subtrees (h : Good separator seen e) (hkey : key ∉ seen) {found : Node}
    (hfind : e.tree.find? key = some found)
    (hroom : node.kind = .phrase → ∀ mine, e.tree.find? key ≠ some (.subtree mine)) :
    ∃ mine children, found = .subtree mine ∧ node = .subtree children := by
  obtain ⟨-, hkind⟩ := h.claimed key found hfind hkey
  cases found with
  | leaf value => cases hkind
  | subtree mine =>
    cases node with
    | leaf value => exact absurd hfind (hroom rfl mine)
    | subtree children => exact ⟨mine, children, rfl, rfl⟩

theorem Good.claimed_put (h : Good separator seen e) (key : String) (node : Node) (k : String)
    (found : Node) (hfind : (e.tree.put key node).find? k = some found)
    (hk : k ∉ seen ++ [key]) : isJoined separator k = false ∧ found.kind = .subtree := by
  simp only [List.mem_append, List.mem_singleton, not_or] at hk
  rw [find?_put_of_ne (Ne.symm hk.2)] at hfind
  exact h.claimed k found hfind hk.1

theorem claimed_place {s : Tree} {base next : String} {path : KeyPath} (node : Node)
    (hbase : isJoined separator base = false)
    (h : ∀ k found, s.find? k = some found → k ∉ seen →
      isJoined separator k = false ∧ found.kind = .subtree)
    (k : String) (found : Node) (hfind : (s.place node (base :: next :: path)).find? k = some found)
    (hk : k ∉ seen) : isJoined separator k = false ∧ found.kind = .subtree := by
  rw [find?_place_cons_cons] at hfind
  split_ifs at hfind with heq
  · cases hfind
    exact ⟨heq ▸ hbase, rfl⟩
  · exact h k found hfind hk

theorem Good.step (h : Good separator seen e) (hnode : node.WellFormed)
    (hstep : Step separator e key node after) : Good separator (seen ++ [key]) after := by
  have hseen {k : String} (hk : k ∉ seen ++ [key]) : k ∉ seen :=
    fun hmem => hk (List.mem_append_left _ hmem)
  cases hstep with
  | superseded hplain hfind hnode =>
    exact ⟨h.wellFormed, fun k found hfind hk => h.claimed k found hfind (hseen hk), h.plainBases⟩
  | merged hplain hroom =>
    have hmerged := h.wellFormed.mergeOnto hnode key
    exact ⟨h.wellFormed.put hmerged key, h.claimed_put key _, h.plainBases⟩
  | exchanged hjoined hbase =>
    obtain ⟨hplain, next, path, hsplit⟩ := splitKey_of_joined hjoined
    refine ⟨(h.wellFormed.erase _).place hnode _, fun k found hfind hk => ?_,
      List.forall_mem_cons.mpr ⟨hplain, h.plainBases⟩⟩
    rw [hsplit] at hfind
    refine claimed_place node hplain (fun j found hfind hj => ?_) k found hfind (hseen hk)
    by_cases hj' : baseKey separator key = j
    · rw [← hj', find?_erase_self h.wellFormed] at hfind
      cases hfind
    · rw [find?_erase_of_ne hj'] at hfind
      exact h.claimed j found hfind hj
  | placed hjoined hbase hfree =>
    obtain ⟨hplain, next, path, hsplit⟩ := splitKey_of_joined hjoined
    refine ⟨h.wellFormed.place hnode _, fun k found hfind hk => ?_,
      List.forall_mem_cons.mpr ⟨hplain, h.plainBases⟩⟩
    rw [hsplit] at hfind
    exact claimed_place node hplain h.claimed k found hfind (hseen hk)
  | verbatim hjoined hbase hblocked =>
    exact ⟨h.wellFormed.put hnode key, h.claimed_put key node, h.plainBases⟩

end Expansion

open Expansion (Good Step)

def expansion (separator : String) (t : Tree) : Expansion :=
  t.entries.foldl (Expansion.add separator) .start

theorem expandFlat_of_flat {separator : String} {t : Tree} (h : t.isFlat separator) :
    t.expandFlat separator =
      ((t.expansion separator).tree.collapseAt (t.expansion separator).bases,
        (t.expansion separator).superseded) := by
  rw [expandFlat, if_pos h]
  rfl

/-- What holds at the start and is kept by every entry of a tree holds of its expansion. -/
theorem expansion_induction {t : Tree} (ht : t.WellFormed) (separator : String)
    {motive : List (String × Node) → Expansion → Prop} (start : motive [] .start)
    (step : ∀ before key node rest e after, t.entries = before ++ (key, node) :: rest →
      Good separator (before.map Prod.fst) e → Step separator e key node after →
        motive before e → motive (before ++ [(key, node)]) after) :
    Good separator t.keys (t.expansion separator) ∧
      motive t.entries (t.expansion separator) := by
  have hrun (before rest : List (String × Node)) (hsplit : t.entries = before ++ rest) :
      Good separator (before.map Prod.fst) (before.foldl (Expansion.add separator) .start) ∧
        motive before (before.foldl (Expansion.add separator) .start) := by
    -- The last entry is the one added last, and `rest` are those still to come.
    induction before using List.reverseRecOn generalizing rest with
    | nil => exact ⟨Expansion.good_start separator, start⟩
    | append_singleton before entry ih =>
      obtain ⟨key, node⟩ := entry
      rw [List.append_assoc, List.singleton_append] at hsplit
      obtain ⟨hgood, hmotive⟩ := ih _ hsplit
      have hentry : t.find? key = some node :=
        (mem_entries_iff ht.nodup_keys).mp (by simp [hsplit])
      have hstep := Expansion.add_step hgood.wellFormed separator key node
      rw [List.foldl_append, List.map_append]
      exact ⟨hgood.step (ht.find? hentry) hstep, step _ _ _ _ _ _ hsplit hgood hstep hmotive⟩
  exact hrun t.entries [] (by simp)

end Phrasebook.Tree
