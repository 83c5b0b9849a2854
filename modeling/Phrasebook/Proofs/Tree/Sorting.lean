import Mathlib.Data.Multiset.Defs
import Phrasebook.Proofs.Tree.Alike
import Phrasebook.Proofs.Tree.Entries
import Phrasebook.Proofs.Tree.RoundTrip
import Phrasebook.Proofs.Tree.Storing

/-!
Sorted trees. Sorting moves entries within their levels and changes nothing else, so trees have one
sorted form exactly when they differ in the order of their entries only.
-/
namespace Phrasebook

def Node.sorted : Node → Node
  | .leaf value => .leaf value
  | .subtree children => .subtree children.sorted

def Node.nesting : Node → Nat
  | .leaf value => value.nesting
  | .subtree children => children.nesting

def Node.Unambiguous : Node → Prop
  | .leaf _ => True
  | .subtree children => Plural.otherForm ∉ children.keys ∧ children.Unambiguous

/-- What a spot shows apart from the order of its names. -/
def Spot.unordered : Spot → Phrase ⊕ Multiset String
  | .leaf value => .inl value
  | .inner names => .inr names

theorem Spot.alike_of_unordered {a b : Spot} (h : a.unordered = b.unordered) : a.Alike b := by
  cases a with
  | leaf value =>
    cases b with
    | leaf other => exact Sum.inl.inj h ▸ .refl _
    | inner names => cases h
  | inner names =>
    cases b with
    | leaf value => cases h
    | inner more => exact .inner (Multiset.coe_eq_coe.mp (Sum.inr.inj h))

theorem Spot.unordered_eq_inl_iff {spot : Spot} {value : Phrase} :
    spot.unordered = .inl value ↔ spot = .leaf value := by
  cases spot <;> simp [unordered]

/-- Names in order leave nothing else to tell apart. -/
theorem Spot.eq_of_unordered {a b : Spot} (ha : a.names.Pairwise (· < ·))
    (hb : b.names.Pairwise (· < ·)) (h : a.unordered = b.unordered) : a = b := by
  cases a with
  | leaf value => exact (unordered_eq_inl_iff.mp h.symm).symm
  | inner names =>
    cases alike_of_unordered h with
    | inner hperm =>
      have hasymm (x y : String) (hxy : x < y) : ¬y < x := String.lt_asymm hxy
      exact congrArg Spot.inner
        (hperm.eq_of_pairwise (fun x y _ _ hxy hyx => absurd hyx (hasymm x y hxy)) ha hb)

namespace Tree

variable {key : String} {node : Node} {s t rest : Tree}

/-- Whether the keys of each level are in strictly ascending code point order. -/
def Ascending (t : Tree) : Prop :=
  ∀ path, (t.keysAt path).Pairwise (· < ·)

theorem reordered_iff :
    s.Reordered t ↔
      ∀ path, (s.spot? path).map Spot.unordered = (t.spot? path).map Spot.unordered := by
  constructor
  · rintro ⟨halike, hleaf⟩ path
    have hspots := halike path
    cases hmine : s.spot? path with
    | none =>
      rw [hmine] at hspots
      generalize t.spot? path = other at hspots ⊢
      cases hspots
      rfl
    | some spot =>
      cases spot with
      | leaf value =>
        have hvalue : t.getLeaf? path = some value :=
          (hleaf path).symm.trans (getLeaf?_eq_some_iff.mpr hmine)
        rw [getLeaf?_eq_some_iff.mp hvalue]
      | inner names =>
        rw [hmine] at hspots
        generalize t.spot? path = other at hspots ⊢
        cases hspots with
        | some hnames =>
          cases hnames with
          | inner hperm =>
            exact congrArg (fun names => some (Sum.inr names)) (Multiset.coe_eq_coe.mpr hperm)
  · intro h
    refine ⟨fun path => ?_, fun path => Option.ext fun value => ?_⟩
    · cases hmine : s.spot? path with
      | none =>
        rw [Option.map_eq_none_iff.mp ((h path).symm.trans (by rw [hmine]; rfl))]
        exact .none
      | some spot =>
        have hother := (h path).symm.trans (congrArg (Option.map Spot.unordered) hmine)
        obtain ⟨other, hother, heq⟩ := Option.map_eq_some_iff.mp hother
        rw [hother]
        exact .some (Spot.alike_of_unordered heq.symm)
    · have hleaf (u : Tree) : u.getLeaf? path = some value ↔
          (u.spot? path).map Spot.unordered = some (.inl value) := by
        simp only [getLeaf?_eq_some_iff, Option.map_eq_some_iff, Spot.unordered_eq_inl_iff,
          exists_eq_right]
      rw [hleaf, hleaf, h path]

theorem Reordered.symm (h : s.Reordered t) : t.Reordered s :=
  reordered_iff.mpr fun path => (reordered_iff.mp h path).symm

theorem Reordered.trans {u : Tree} (h : s.Reordered t) (hu : t.Reordered u) : s.Reordered u :=
  reordered_iff.mpr fun path => (reordered_iff.mp h path).trans (reordered_iff.mp hu path)

/-- Trees in order are equal if only their order can differ. -/
theorem Reordered.eq_of_ascending (h : s.Reordered t) (hs : s.WellFormed) (ht : t.WellFormed)
    (hs' : s.Ascending) (ht' : t.Ascending) : s = t := by
  refine hs.ext ht fun path => ?_
  have hpath := reordered_iff.mp h path
  cases hmine : s.spot? path with
  | none =>
    rw [hmine] at hpath
    exact (Option.map_eq_none_iff.mp hpath.symm).symm
  | some mine =>
    rw [hmine, Option.map_some] at hpath
    obtain ⟨other, hother, heq⟩ := Option.map_eq_some_iff.mp hpath.symm
    have hasc := hs' path
    have hasc' := ht' path
    rw [keysAt_of_spot? hmine] at hasc
    rw [keysAt_of_spot? hother] at hasc'
    rw [hother, Spot.eq_of_unordered hasc hasc' heq.symm]

theorem insertSorted_cons (key k : String) (node found : Node) (rest : Tree) :
    (cons k found rest).insertSorted key node =
      if key ≤ k then cons key node (cons k found rest)
      else cons k found (rest.insertSorted key node) := by
  cases found <;> rfl

/-- What does not depend on the order of entries does not depend on where an entry is inserted. -/
theorem insertSorted_invariant {β : Type} {f : Tree → β}
    (hcons : ∀ k found s t, f s = f t → f (cons k found s) = f (cons k found t))
    (hswap : ∀ k found j other t,
      f (cons k found (cons j other t)) = f (cons j other (cons k found t)))
    (key : String) (node : Node) (t : Tree) :
    f (t.insertSorted key node) = f (cons key node t) := by
  induction t using entry_induction with
  | nil => rfl
  | entry k found rest _ ih =>
    rw [insertSorted_cons]
    split_ifs with hle
    · rfl
    · rw [hcons k found _ _ ih, hswap]

theorem keys_insertSorted (key : String) (node : Node) (t : Tree) :
    (t.insertSorted key node).keys.Perm (key :: t.keys) := by
  induction t using entry_induction with
  | nil => rw [insertSorted, keys_cons]
  | entry k found rest _ ih =>
    rw [insertSorted_cons]
    split_ifs with hle
    · rw [keys_cons]
    · rw [keys_cons, keys_cons]
      exact (ih.cons k).trans (List.Perm.swap key k rest.keys)

theorem WellFormed.insertSorted (h : t.WellFormed) (hkey : key ∉ t.keys)
    (hnode : node.WellFormed) : (t.insertSorted key node).WellFormed := by
  induction t using entry_induction with
  | nil => exact wellFormed_cons_iff.mpr ⟨hkey, hnode, trivial⟩
  | entry k found rest _ ih =>
    rw [insertSorted_cons]
    split_ifs with hle
    · exact wellFormed_cons_iff.mpr ⟨hkey, hnode, h⟩
    · obtain ⟨hk, hfound, hrest⟩ := wellFormed_cons_iff.mp h
      rw [keys_cons, List.mem_cons, not_or] at hkey
      refine wellFormed_cons_iff.mpr ⟨?_, hfound, ih hrest hkey.2⟩
      rw [(keys_insertSorted key node rest).mem_iff, List.mem_cons, not_or]
      exact ⟨Ne.symm hkey.1, hk⟩

theorem find?_insertSorted (key k : String) (node : Node) (t : Tree) :
    (t.insertSorted key node).find? k = if key = k then some node else t.find? k := by
  induction t using entry_induction with
  | nil => rw [insertSorted, find?_cons]
  | entry j found rest _ ih =>
    rw [insertSorted_cons]
    split_ifs with hle hk hk
    · rw [find?_cons, if_pos hk]
    · rw [find?_cons, if_neg hk]
    · have hj : j ≠ k := by
        rintro rfl
        exact hle (hk ▸ String.le_refl key)
      rw [find?_cons, if_neg hj, ih, if_pos hk]
    · rw [find?_cons, find?_cons, ih, if_neg hk]

theorem pairwise_keys_insertSorted (h : t.keys.Pairwise (· < ·)) (hkey : key ∉ t.keys) :
    (t.insertSorted key node).keys.Pairwise (· < ·) := by
  induction t using entry_induction with
  | nil => simp [insertSorted]
  | entry k found rest _ ih =>
    rw [keys_cons] at h hkey
    obtain ⟨hfirst, hrest⟩ := List.pairwise_cons.mp h
    obtain ⟨hk, hfresh⟩ := not_or.mp (mt List.mem_cons.mpr hkey)
    rw [insertSorted_cons]
    split_ifs with hle
    · have hlt : key < k := Std.lt_of_le_of_ne hle hk
      rw [keys_cons, keys_cons, List.pairwise_cons, List.forall_mem_cons]
      exact ⟨⟨hlt, fun j hj => String.lt_trans hlt (hfirst j hj)⟩, h⟩
    · rw [keys_cons, List.pairwise_cons]
      refine ⟨fun j hj => ?_, ih hrest hfresh⟩
      rcases List.mem_cons.mp ((keys_insertSorted key node rest).mem_iff.mp hj) with rfl | hj
      · exact String.not_le.mp hle
      · exact hfirst j hj

theorem sorted_cons (key : String) (node : Node) (rest : Tree) :
    (cons key node rest).sorted = rest.sorted.insertSorted key node.sorted := by
  cases node <;> rfl

theorem keys_sorted (t : Tree) : t.sorted.keys.Perm t.keys := by
  induction t using entry_induction with
  | nil => exact .nil
  | entry key node rest _ ih =>
    rw [sorted_cons, keys_cons]
    exact (keys_insertSorted key node.sorted rest.sorted).trans (ih.cons key)

theorem find?_sorted (t : Tree) (key : String) :
    t.sorted.find? key = (t.find? key).map Node.sorted := by
  induction t using entry_induction with
  | nil => rfl
  | entry k node rest _ ih =>
    rw [sorted_cons, find?_insertSorted, find?_cons, ih]
    split_ifs <;> rfl

theorem WellFormed.sorted (h : t.WellFormed) : t.sorted.WellFormed := by
  induction t using entry_induction with
  | nil => trivial
  | entry key node rest ihc ihr =>
    obtain ⟨hkey, hnode, hrest⟩ := wellFormed_cons_iff.mp h
    have hfresh : key ∉ rest.sorted.keys := by rwa [(keys_sorted rest).mem_iff]
    have hsorted : node.sorted.WellFormed := by
      cases node with
      | leaf value => exact hnode
      | subtree children => exact ihc children rfl hnode
    rw [sorted_cons]
    exact (ihr hrest).insertSorted hfresh hsorted

theorem reordered_sorted (t : Tree) : t.sorted.Reordered t := by
  refine reordered_iff.mpr fun path => ?_
  induction path generalizing t with
  | nil =>
    have hroot := Multiset.coe_eq_coe.mpr (keys_sorted t)
    exact congrArg (fun names => some (Sum.inr names)) hroot
  | cons key path ih =>
    rw [spot?_cons, spot?_cons, find?_sorted]
    cases t.find? key with
    | none => rfl
    | some node =>
      cases node with
      | leaf value => rfl
      | subtree children => exact ih children

theorem pairwise_keys_sorted (h : t.keys.Nodup) : t.sorted.keys.Pairwise (· < ·) := by
  induction t using entry_induction with
  | nil => exact .nil
  | entry key node rest _ ih =>
    obtain ⟨hfresh, hrest⟩ := List.nodup_cons.mp (keys_cons key node rest ▸ h)
    rw [sorted_cons]
    apply pairwise_keys_insertSorted (ih hrest)
    rwa [(keys_sorted rest).mem_iff]

theorem childrenOf_sorted (t : Tree) (key : String) :
    t.sorted.childrenOf key = (t.childrenOf key).sorted := by
  rw [childrenOf, childrenOf, find?_sorted]
  cases t.find? key with
  | none => rfl
  | some node => cases node <;> rfl

theorem keysAt_cons (t : Tree) (key : String) (path : KeyPath) :
    t.keysAt (key :: path) = (t.childrenOf key).keysAt path := by
  have hempty : nil.keysAt path = [] := by
    cases path with
    | nil => rfl
    | cons k path => exact keysAt_of_spot?_eq_none rfl
  have hspot : t.spot? (key :: path) = (t.find? key).bind (·.spot? path) := spot?_cons t key path
  rw [childrenOf]
  cases hfind : t.find? key with
  | none =>
    rw [hempty]
    exact keysAt_of_spot?_eq_none (by rw [hspot, hfind]; rfl)
  | some node =>
    rw [hfind] at hspot
    cases node with
    | leaf value =>
      rw [hempty]
      cases path with
      | nil => exact keysAt_of_spot? hspot
      | cons k path => exact keysAt_of_spot?_eq_none hspot
    | subtree children => exact keysAt_congr hspot

theorem ascending_sorted (h : t.WellFormed) : t.sorted.Ascending := by
  intro path
  induction path generalizing t with
  | nil => exact pairwise_keys_sorted h.nodup_keys
  | cons key path ih =>
    rw [keysAt_cons, childrenOf_sorted]
    exact ih (h.childrenOf key)

/-- Trees have one sorted form exactly if they differ in the order of their entries only. -/
theorem sorted_eq_iff (hs : s.WellFormed) (ht : t.WellFormed) :
    s.sorted = t.sorted ↔ s.Reordered t := by
  constructor
  · intro heq
    have hmine : s.Reordered s.sorted := (reordered_sorted s).symm
    exact hmine.trans (heq ▸ reordered_sorted t)
  · intro h
    have hforms : s.sorted.Reordered t.sorted :=
      ((reordered_sorted s).trans h).trans (reordered_sorted t).symm
    exact hforms.eq_of_ascending hs.sorted ht.sorted (ascending_sorted hs) (ascending_sorted ht)

theorem sorted_sorted (h : t.WellFormed) : t.sorted.sorted = t.sorted :=
  (sorted_eq_iff h.sorted h).mpr (reordered_sorted t)

theorem nesting_cons (key : String) (node : Node) (rest : Tree) :
    (cons key node rest).nesting = max (node.nesting + 1) rest.nesting := by
  cases node <;> rfl

theorem nesting_sorted (t : Tree) : t.sorted.nesting = t.nesting := by
  have hinsert := insertSorted_invariant (f := nesting)
    (fun k found s t h => by rw [nesting_cons, nesting_cons, h])
    (fun k found j other t => by simp only [nesting_cons]; omega)
  induction t using entry_induction with
  | nil => rfl
  | entry key node rest ihc ihr =>
    have hnode : node.sorted.nesting = node.nesting := by
      cases node with
      | leaf value => rfl
      | subtree children => exact ihc children rfl
    rw [sorted_cons, hinsert, nesting_cons, nesting_cons, hnode, ihr]

theorem unambiguous_cons_iff :
    (cons key node rest).Unambiguous ↔ node.Unambiguous ∧ rest.Unambiguous := by
  cases node with
  | leaf value => exact (iff_of_eq (true_and _)).symm
  | subtree children => exact and_assoc.symm

theorem unambiguous_sorted (t : Tree) : t.sorted.Unambiguous ↔ t.Unambiguous := by
  have hinsert := insertSorted_invariant (f := Unambiguous)
    (fun k found s t h => by rw [unambiguous_cons_iff.eq, unambiguous_cons_iff.eq, h])
    (fun k found j other t => by simp only [unambiguous_cons_iff, and_left_comm])
  induction t using entry_induction with
  | nil => rfl
  | entry key node rest ihc ihr =>
    have hnode : node.sorted.Unambiguous ↔ node.Unambiguous := by
      cases node with
      | leaf value => rfl
      | subtree children =>
        exact and_congr (not_congr (keys_sorted children).mem_iff) (ihc children rfl)
    rw [sorted_cons, hinsert, unambiguous_cons_iff, unambiguous_cons_iff]
    exact and_congr hnode ihr

/-- A tree that was read from a file can be read from its sorted file. -/
theorem parse_render_sorted {content : String} (h : parse content = .ok t) :
    parse t.sorted.render = .ok t.sorted := by
  obtain ⟨hwf, hunamb, hnesting⟩ := decoded_of_parse h
  have hsorted : t.sorted.Unambiguous := (unambiguous_sorted t).mpr hunamb
  exact (parse_render hwf.sorted).mpr
    ⟨(nesting_sorted t).trans_le hnesting, hsorted.legible, reread_eq_self_iff.mpr hsorted⟩

end Tree

/-- Sorting is a canonical form: every leaf stays at its path, the keys of each level ascend,
sorting again changes nothing, and the sorted forms of two trees are equal exactly if the trees
differ in the order of their entries only. A file needs no sorting exactly if it is the written
form of its sorted tree; otherwise that form replaces it, is read as the sorted tree, and needs no
sorting. -/
theorem sorting_canonical :
    (∀ t : Tree, t.WellFormed →
      (∀ path, t.sorted.getLeaf? path = t.getLeaf? path) ∧
        (∀ path, (t.sorted.keysAt path).Pairwise (· < ·)) ∧ t.sorted.sorted = t.sorted) ∧
    (∀ s t : Tree, s.WellFormed → t.WellFormed → (s.sorted = t.sorted ↔ s.Reordered t)) ∧
    ∀ path content file, PhraseFile.parse path content = .ok file →
      (file.sorted? = none ↔ content = file.tree.sorted.render) ∧
        ∀ text, file.sorted? = some text →
          ∃ again, PhraseFile.parse path text = .ok again ∧ again.tree = file.tree.sorted ∧
            again.sorted? = none := by
  refine ⟨fun t ht => ⟨t.reordered_sorted.2, Tree.ascending_sorted ht, Tree.sorted_sorted ht⟩,
    fun s t hs ht => Tree.sorted_eq_iff hs ht, ?_⟩
  · intro path content file hread
    obtain ⟨t, ht, rfl⟩ := PhraseFile.parse_eq_ok_iff.mp hread
    have hwf : t.WellFormed := (Tree.decoded_of_parse ht).1
    have hdone : PhraseFile.sorted? ⟨path, t.sorted.render, t.sorted⟩ = none := by
      rw [PhraseFile.sorted?]
      exact if_pos (congrArg Tree.render (Tree.sorted_sorted hwf))
    constructor
    · simp [PhraseFile.sorted?, eq_comm]
    · intro text htext
      rw [PhraseFile.sorted?] at htext
      split_ifs at htext
      cases htext
      refine ⟨_, PhraseFile.parse_eq_ok_iff.mpr ⟨_, ?_, rfl⟩, rfl, hdone⟩
      exact Tree.parse_render_sorted ht

/-- Capitals sort before small letters, a plural keeps the order of its forms, and the sorted file
is final. -/
theorem mixed_case_sorts :
    let forms : Plural := ⟨[("other", "1"), ("one", "2")]⟩
    let t : Tree := .branch "b" (.leaf "z" (.text "3") (.leaf "a" (.text "4") .nil))
      (.leaf "B" (.plural forms) .nil)
    let s : Tree := .leaf "B" (.plural forms)
      (.branch "b" (.leaf "a" (.text "4") (.leaf "z" (.text "3") .nil)) .nil)
    let file : PhraseFile := ⟨"en.json", t.render, t⟩
    s.WellFormed ∧ t.WellFormed ∧ t.sorted = s ∧ s.Reordered t ∧
      PhraseFile.parse "en.json" t.render = .ok file ∧
      ∃ text again, file.sorted? = some text ∧ PhraseFile.parse "en.json" text = .ok again ∧
        again.tree = s ∧ again.sorted? = none := by
  intro forms t s file
  have hforms : forms.WellFormed := by
    simp [forms, Plural.WellFormed, Assoc.Unique, Plural.otherForm]
  have hs : s.WellFormed := by simp [s, Tree.WellFormed, Phrase.WellFormed, hforms]
  have ht : t.WellFormed := by simp [t, Tree.WellFormed, Phrase.WellFormed, hforms]
  have hsorted : t.sorted = s := by decide
  have hunamb : t.Unambiguous := by simp [t, Tree.Unambiguous, Plural.otherForm]
  have hread : PhraseFile.parse "en.json" t.render = .ok file :=
    PhraseFile.parse_eq_ok_iff.mpr
      ⟨t, (Tree.parse_render ht).mpr ⟨by decide, hunamb.legible, by decide⟩, rfl⟩
  obtain ⟨hcanonical, hforms, hfiles⟩ := sorting_canonical
  obtain ⟨hnone, hsome⟩ := hfiles "en.json" t.render file hread
  have hopen : file.sorted? ≠ none := by
    rw [ne_eq, hnone]
    intro heq
    have hjson := Tree.render_injective ht hs (hsorted ▸ heq)
    simp [t, s, Tree.toJson, Tree.members] at hjson
  obtain ⟨text, htext⟩ := Option.ne_none_iff_exists'.mp hopen
  obtain ⟨again, hagain, htree, hdone⟩ := hsome text htext
  have hreordered := (hforms s t hs ht).mp (hsorted ▸ (hcanonical t ht).2.2)
  exact ⟨hs, ht, hsorted, hreordered, hread, text, again, htext, hagain, htree.trans hsorted, hdone⟩

end Phrasebook
