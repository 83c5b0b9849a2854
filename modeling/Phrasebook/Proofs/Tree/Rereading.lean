import Phrasebook.Proofs.Tree.Shape

/-!
What changes when a tree is written and read again: the outermost subtrees with an `other` entry
become leaves, and nothing is left behind them.
-/
namespace Phrasebook

def Node.reread : Node → Node
  | .leaf value => .leaf value
  | .subtree children =>
    if Plural.otherForm ∈ children.keys then .plural ⟨children.texts⟩ else .subtree children.reread

namespace Tree

/-- Whether there is a subtree at a path that is read as a plural. -/
def Mistaken (t : Tree) (q : KeyPath) : Prop :=
  q ≠ [] ∧ ∃ names, t.spot? q = some (.inner names) ∧ Plural.otherForm ∈ names

theorem find?_reread (t : Tree) (key : String) :
    t.reread.find? key = (t.find? key).map Node.reread := by
  induction t with
  | nil => rfl
  | leaf k value rest ih =>
    rw [reread, find?, find?, ih]
    split_ifs <;> rfl
  | branch k children rest _ ih =>
    rw [reread]
    split_ifs with hother
    · rw [find?, find?, ih]
      split_ifs
      · rw [Option.map_some, Node.reread, if_pos hother]
        rfl
      · rfl
    · rw [find?, find?, ih]
      split_ifs
      · rw [Option.map_some, Node.reread, if_neg hother]
      · rfl

theorem Unambiguous.find? {t : Tree} {key : String} {children : Tree} (h : t.Unambiguous)
    (hfind : t.find? key = some (.subtree children)) :
    Plural.otherForm ∉ children.keys ∧ children.Unambiguous := by
  induction t with
  | nil => cases hfind
  | leaf k value rest ih =>
    rw [Tree.find?] at hfind
    split_ifs at hfind
    · cases hfind
    · exact ih h hfind
  | branch k inner rest _ ih =>
    rw [Tree.find?] at hfind
    split_ifs at hfind
    · cases hfind
      exact ⟨h.1, h.2.1⟩
    · exact ih h.2.2 hfind

theorem Unambiguous.not_mistaken {t : Tree} (h : t.Unambiguous) (q : KeyPath) : ¬t.Mistaken q := by
  rintro ⟨hq, names, hspot, hother⟩
  induction q generalizing t with
  | nil => exact hq rfl
  | cons key q ih =>
    rw [spot?_cons] at hspot
    obtain ⟨node, hfind, hspot⟩ := Option.bind_eq_some_iff.mp hspot
    cases node with
    | leaf value =>
      rw [Node.spot?] at hspot
      split_ifs at hspot
      cases hspot
    | subtree children =>
      obtain ⟨hkeys, hchildren⟩ := h.find? hfind
      cases q with
      | nil =>
        cases hspot
        exact hkeys hother
      | cons k q => exact ih hchildren (by simp) hspot

/-- Reading a tree back changes nothing on the way to a position, or there is a subtree on the way
that has become a plural. -/
theorem spot?_reread_cases (t : Tree) (q : KeyPath) :
    (∀ p, p <+: q → t.reread.spot? p = t.spot? p) ∨
      ∃ d, d <+: q ∧ t.Mistaken d ∧ ∃ record, t.reread.spot? d = some (.leaf (.plural record)) := by
  induction q generalizing t with
  | nil =>
    refine .inl fun p hp => ?_
    rw [List.prefix_nil.mp hp, spot?_nil, spot?_nil, keys_reread]
  | cons key q ih =>
    have hsame (hnode : ∀ p, p <+: q → t.reread.spot? (key :: p) = t.spot? (key :: p)) :
        ∀ p, p <+: key :: q → t.reread.spot? p = t.spot? p := by
      intro p hp
      cases p with
      | nil => rw [spot?_nil, spot?_nil, keys_reread]
      | cons k p =>
        obtain ⟨rfl, hpre⟩ := List.cons_prefix_cons.mp hp
        exact hnode p hpre
    cases hfind : t.find? key with
    | none => exact .inl (hsame fun p _ => by simp [spot?_cons, find?_reread, hfind])
    | some node =>
      cases node with
      | leaf value =>
        exact .inl (hsame fun p _ => by simp [spot?_cons, find?_reread, hfind, Node.reread])
      | subtree children =>
        by_cases hother : Plural.otherForm ∈ children.keys
        · refine .inr ⟨[key], by simp, ⟨by simp, children.keys, ?_, hother⟩, ⟨children.texts⟩, ?_⟩
          · simp [spot?_cons, hfind, Node.spot]
          · simp [spot?_cons, find?_reread, hfind, Node.reread, hother, Node.spot, Node.plural]
        · have hread (p : KeyPath) : t.reread.spot? (key :: p) = children.reread.spot? p := by
            simp [spot?_cons, find?_reread, hfind, Node.reread, hother, Node.spot?]
          have hwritten (p : KeyPath) : t.spot? (key :: p) = children.spot? p := by
            simp [spot?_cons, hfind, Node.spot?]
          rcases ih children with hall | ⟨d, hd, ⟨hne, names, hspot, hname⟩, record, hrecord⟩
          · exact .inl (hsame fun p hp => by rw [hread, hwritten, hall p hp])
          · exact .inr ⟨key :: d, List.cons_prefix_cons.mpr ⟨rfl, hd⟩,
              ⟨by simp, names, by rw [hwritten, hspot], hname⟩, record, by rw [hread, hrecord]⟩

/-- A leaf where a subtree was written is a subtree that was mistaken. -/
theorem mistaken_of_isLeaf_reread {t : Tree} {q : KeyPath} {names : List String}
    (hleaf : t.reread.IsLeaf q) (hinner : t.spot? q = some (.inner names)) : t.Mistaken q := by
  obtain ⟨value, hvalue⟩ := isLeaf_iff.mp hleaf
  rcases t.spot?_reread_cases q with hsame | ⟨d, hd, hmistaken, record, hrecord⟩
  · rw [hsame q List.prefix_rfl, hinner] at hvalue
    cases hvalue
  · by_cases hdq : d = q
    · exact hdq ▸ hmistaken
    · rw [spot?_eq_none_of_isLeaf (isLeaf_iff.mpr ⟨_, hrecord⟩) hd hdq] at hvalue
      cases hvalue

theorem lookup_members (t : Tree) (key : String) :
    t.members.lookup key = (t.find? key).map Node.toJson := by
  induction t with
  | nil => rfl
  | leaf k value rest ih =>
    rw [members, Assoc.lookup_cons_ite, find?, ih]
    split_ifs <;> rfl
  | branch k children rest _ ih =>
    rw [members, Assoc.lookup_cons_ite, find?, ih]
    split_ifs <;> rfl

theorem toJson_eq_of_get? {s t : Tree} {path : KeyPath} {n m : Node} (h : s.toJson = t.toJson)
    (hs : s.get? path = some n) (ht : t.get? path = some m) : n.toJson = m.toJson := by
  have hfind (s t : Tree) (h : s.toJson = t.toJson) (key : String) :
      (s.find? key).map Node.toJson = (t.find? key).map Node.toJson := by
    rw [← lookup_members, ← lookup_members, Json.Value.object.inj h]
  induction path generalizing s t with
  | nil => cases hs
  | cons key path ih =>
    cases path with
    | nil =>
      rw [get?] at hs ht
      have heq := hfind s t h key
      rw [hs, ht] at heq
      exact Option.some.inj heq
    | cons k path =>
      rw [get?_cons_cons] at hs ht
      obtain ⟨a, ha, hs⟩ := Option.bind_eq_some_iff.mp hs
      obtain ⟨b, hb, ht⟩ := Option.bind_eq_some_iff.mp ht
      have heq := hfind s t h key
      rw [ha, hb] at heq
      cases a with
      | leaf value => cases hs
      | subtree mine =>
        cases b with
        | leaf value => cases ht
        | subtree children => exact ih (Option.some.inj heq) hs ht

end Tree

theorem Plural.toJson_injective {a b : Plural} (h : a.toJson = b.toJson) : a = b := by
  rw [toJson_eq, toJson_eq] at h
  have hforms := Json.Value.object.inj h
  rw [formMembers, formMembers, List.map_inj_right] at hforms
  · cases a
    cases b
    exact congrArg Plural.mk hforms
  · intro form form' heq
    obtain ⟨hname, htext⟩ := Prod.mk.inj heq
    exact Prod.ext hname (Json.Value.string.inj htext)

theorem Phrase.toJson_injective {a b : Phrase} (h : a.toJson = b.toJson) : a = b := by
  cases a with
  | text a =>
    cases b with
    | text b => rw [Json.Value.string.inj h]
    | plural b => cases h
  | plural a =>
    cases b with
    | text b => cases h
    | plural b => rw [Plural.toJson_injective h]

end Phrasebook
