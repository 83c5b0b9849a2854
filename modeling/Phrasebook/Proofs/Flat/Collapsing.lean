import Phrasebook.Proofs.Tree.Entries
import Phrasebook.Tree.Flat

/-!
Subtrees that stand for plurals. When they become leaves, every phrase below them is a form of the
new plural, and nothing else changes.
-/
namespace Phrasebook

/-- A node after the plurals it stands for, or has below it, have become leaves. -/
def Node.collapsed : Node → Node
  | .leaf value => .leaf value
  | .subtree children =>
    match children.plural? with
    | some record => .plural record
    | none => .subtree children.collapse

namespace Tree

theorem entries_collapse (t : Tree) :
    t.collapse.entries = t.entries.map fun entry => (entry.1, entry.2.collapsed) := by
  induction t with
  | nil => rfl
  | leaf key value rest ih => simp [collapse, entries, Node.collapsed, ih]
  | branch key children rest _ ih =>
    cases hplural : children.plural? with
    | none => simp [collapse, entries, Node.collapsed, hplural, ih]
    | some record => simp [collapse, entries, Node.collapsed, hplural, ih, Node.plural]

theorem entries_collapseAt (bases : List String) (t : Tree) :
    (t.collapseAt bases).entries = t.entries.map fun entry =>
      (entry.1, if entry.1 ∈ bases then entry.2.collapsed else entry.2) := by
  induction t with
  | nil => rfl
  | leaf key value rest ih => simp [collapseAt, entries, Node.collapsed, ih]
  | branch key children rest _ ih =>
    by_cases hbase : key ∈ bases
    · cases hplural : children.plural? with
      | none => simp [collapseAt, entries, Node.collapsed, hbase, hplural, ih]
      | some record => simp [collapseAt, entries, Node.collapsed, hbase, hplural, ih, Node.plural]
    · simp [collapseAt, entries, hbase, ih]

@[simp] theorem keys_collapseAt (bases : List String) (t : Tree) :
    (t.collapseAt bases).keys = t.keys := by
  simp [keys, entries_collapseAt]

theorem lookup_map_entry (f : String → Node → Node) (entries : List (String × Node))
    (key : String) :
    (entries.map fun entry => (entry.1, f entry.1 entry.2)).lookup key =
      (entries.lookup key).map (f key) := by
  induction entries with
  | nil => rfl
  | cons entry rest ih =>
    obtain ⟨k, node⟩ := entry
    rw [List.map_cons, Assoc.lookup_cons_ite, Assoc.lookup_cons_ite, ih]
    split_ifs with hk
    · rw [hk, Option.map_some]
    · rfl

theorem find?_collapse (key : String) (t : Tree) :
    t.collapse.find? key = (t.find? key).map Node.collapsed := by
  rw [find?_eq_lookup, find?_eq_lookup, entries_collapse]
  exact lookup_map_entry (fun _ node => node.collapsed) t.entries key

theorem find?_collapseAt (bases : List String) (key : String) (t : Tree) :
    (t.collapseAt bases).find? key =
      (t.find? key).map fun node => if key ∈ bases then node.collapsed else node := by
  rw [find?_eq_lookup, find?_eq_lookup, entries_collapseAt]
  exact lookup_map_entry (fun k node => if k ∈ bases then node.collapsed else node) t.entries key

theorem collapseAt_nil (t : Tree) : t.collapseAt [] = t := by
  apply entries_injective
  simp [entries_collapseAt]

/-- Whether a phrase is found at a path: as a leaf, or as a form of a plural one level up. -/
inductive Holds (t : Tree) (path : KeyPath) (value : Phrase) : Prop
  | leaf (h : t.getLeaf? path = some value)
  | form {parent : KeyPath} {name text : String} {record : Plural}
    (hpath : path = parent ++ [name]) (hplural : t.getLeaf? parent = some (.plural record))
    (hform : record.forms.lookup name = some text) (hvalue : value = .text text)

theorem holds_of_spot? {t : Tree} {path : KeyPath} {value : Phrase}
    (h : t.spot? path = some (.leaf value)) : t.Holds path value :=
  .leaf (getLeaf?_eq_some_iff.mpr h)

theorem getLeaf?_below {t children : Tree} {key : String} {path : KeyPath} {value : Phrase}
    (hfind : t.find? key = some (.subtree children)) (h : children.getLeaf? path = some value) :
    t.getLeaf? (key :: path) = some value := by
  rw [getLeaf?_eq_some_iff] at h ⊢
  rw [spot?_cons, hfind]
  exact h

theorem Holds.below {t children : Tree} {key : String} {path : KeyPath} {value : Phrase}
    (hfind : t.find? key = some (.subtree children)) (h : children.Holds path value) :
    t.Holds (key :: path) value := by
  cases h with
  | leaf h => exact .leaf (getLeaf?_below hfind h)
  | @form parent name text record hpath hplural hform hvalue =>
    have hbelow : key :: path = key :: parent ++ [name] := by rw [hpath, List.cons_append]
    exact .form hbelow (getLeaf?_below hfind hplural) hform hvalue

/-- The children of a subtree that stands for a plural are its forms. -/
theorem find?_of_textForms? {t : Tree} {forms : List (String × String)}
    (h : t.textForms? = some forms) (key : String) :
    t.find? key = (forms.lookup key).map fun text => .leaf (.text text) := by
  induction t generalizing forms with
  | nil =>
    cases h
    rfl
  | leaf k value rest ih =>
    cases value with
    | plural record => simp [textForms?] at h
    | text value =>
      rw [textForms?] at h
      obtain ⟨tail, htail, rfl⟩ := Option.map_eq_some_iff.mp h
      rw [find?, Assoc.lookup_cons_ite, ih htail]
      split_ifs <;> rfl
  | branch k children rest => simp [textForms?] at h

theorem plural?_eq_some_iff {t : Tree} {record : Plural} :
    t.plural? = some record ↔
      t.textForms? = some record.forms ∧ (record.forms.lookup Plural.otherForm).isSome := by
  rw [plural?, Option.bind_eq_some_iff]
  constructor
  · rintro ⟨forms, hforms, hplural⟩
    split_ifs at hplural with hother
    cases hplural
    exact ⟨hforms, hother⟩
  · rintro ⟨hforms, hother⟩
    exact ⟨record.forms, hforms, by rw [if_pos hother]⟩

theorem map_fst_of_textForms? {t : Tree} {forms : List (String × String)}
    (h : t.textForms? = some forms) : forms.map Prod.fst = t.keys := by
  induction t generalizing forms with
  | nil =>
    cases h
    rfl
  | leaf key value rest ih =>
    cases value with
    | plural record => simp [textForms?] at h
    | text value =>
      rw [textForms?] at h
      obtain ⟨tail, htail, rfl⟩ := Option.map_eq_some_iff.mp h
      simp [ih htail]
  | branch key children rest => simp [textForms?] at h

theorem wellFormed_of_plural? {t : Tree} {record : Plural} (ht : t.WellFormed)
    (h : t.plural? = some record) : record.WellFormed := by
  obtain ⟨hforms, hother⟩ := plural?_eq_some_iff.mp h
  refine ⟨?_, Assoc.lookup_isSome_iff.mp hother⟩
  rw [Assoc.Unique, map_fst_of_textForms? hforms]
  exact ht.nodup_keys

@[simp] theorem keys_collapse (t : Tree) : t.collapse.keys = t.keys := by
  simp [keys, entries_collapse]

theorem WellFormed.collapse {t : Tree} (h : t.WellFormed) : t.collapse.WellFormed := by
  induction t with
  | nil => trivial
  | leaf key value rest ih => exact ⟨by simpa using h.1, h.2.1, ih h.2.2⟩
  | branch key children rest ihc ihr =>
    rw [Tree.collapse]
    split
    · rename_i record hplural
      exact ⟨by simpa using h.1, wellFormed_of_plural? h.2.1 hplural, ihr h.2.2⟩
    · exact ⟨by simpa using h.1, ihc h.2.1, ihr h.2.2⟩

theorem WellFormed.collapseAt {t : Tree} (h : t.WellFormed) (bases : List String) :
    (t.collapseAt bases).WellFormed := by
  induction t with
  | nil => trivial
  | leaf key value rest ih => exact ⟨by simpa using h.1, h.2.1, ih h.2.2⟩
  | branch key children rest _ ih =>
    rw [Tree.collapseAt]
    split_ifs
    · split
      · rename_i record hplural
        exact ⟨by simpa using h.1, wellFormed_of_plural? h.2.1 hplural, ih h.2.2⟩
      · exact ⟨by simpa using h.1, h.2.1.collapse, ih h.2.2⟩
    · exact ⟨by simpa using h.1, h.2.1, ih h.2.2⟩

/-- Every phrase below a node is still found once the node has been collapsed. -/
theorem holds_of_collapsed {t : Tree} {key : String} {path : KeyPath} {node : Node}
    {value : Phrase} (hfind : t.find? key = some node.collapsed)
    (h : node.spot? path = some (.leaf value)) : t.Holds (key :: path) value := by
  induction path generalizing t key node with
  | nil =>
    obtain rfl := Node.eq_leaf_of_spot (Option.some.inj ((Node.spot?_nil node).symm.trans h))
    exact holds_of_spot? (by simp [spot?_cons, hfind, Node.collapsed, Node.spot])
  | cons k path ih =>
    cases node with
    | leaf found => cases h
    | subtree children =>
      rw [Node.spot?, spot?_cons] at h
      obtain ⟨child, hchild, h⟩ := Option.bind_eq_some_iff.mp h
      cases hplural : children.plural? with
      | none =>
        rw [Node.collapsed, hplural] at hfind
        have hinner : children.collapse.find? k = some child.collapsed := by
          rw [find?_collapse, hchild]
          rfl
        exact (ih hinner h).below hfind
      | some record =>
        -- The children of a plural are texts, so the path ends here.
        rw [Node.collapsed, hplural] at hfind
        obtain ⟨hforms, -⟩ := plural?_eq_some_iff.mp hplural
        rw [find?_of_textForms? hforms] at hchild
        obtain ⟨text, htext, rfl⟩ := Option.map_eq_some_iff.mp hchild
        cases path with
        | nil =>
          cases h
          have hpath : [key, k] = [key] ++ [k] := rfl
          refine .form hpath ?_ htext rfl
          rw [getLeaf?_eq_some_iff, spot?_cons, hfind]
          rfl
        | cons j path => cases h

/-- Every phrase is still found when entries are collapsed and others are left as they are. -/
theorem holds_of_entries {s t : Tree} {path : KeyPath} {value : Phrase}
    (hentries : ∀ key node, t.find? key = some node →
      s.find? key = some node.collapsed ∨ s.find? key = some node)
    (h : t.spot? path = some (.leaf value)) : s.Holds path value := by
  cases path with
  | nil => cases h
  | cons key path =>
    rw [spot?_cons] at h
    obtain ⟨node, hnode, h⟩ := Option.bind_eq_some_iff.mp h
    rcases hentries key node hnode with hfind | hfind
    · exact holds_of_collapsed hfind h
    · exact holds_of_spot? (by rw [spot?_cons, hfind, Option.bind_some, h])

theorem holds_collapse {t : Tree} {path : KeyPath} {value : Phrase}
    (h : t.spot? path = some (.leaf value)) : t.collapse.Holds path value := by
  refine holds_of_entries (fun key node hnode => ?_) h
  rw [find?_collapse, hnode]
  exact .inl rfl

theorem holds_collapseAt {t : Tree} {path : KeyPath} {value : Phrase} (bases : List String)
    (h : t.spot? path = some (.leaf value)) : (t.collapseAt bases).Holds path value := by
  refine holds_of_entries (fun key node hnode => ?_) h
  rw [find?_collapseAt, hnode, Option.map_some]
  split_ifs
  · exact .inl rfl
  · exact .inr rfl

theorem collapseAt_eq_collapse {t : Tree} {bases : List String} (hkeys : t.keys.Nodup)
    (h : ∀ key children, t.find? key = some (.subtree children) → key ∈ bases) :
    t.collapseAt bases = t.collapse := by
  apply entries_injective
  rw [entries_collapseAt, entries_collapse]
  refine List.map_congr_left fun entry hentry => ?_
  obtain ⟨key, node⟩ := entry
  cases node with
  | leaf value => simp [Node.collapsed]
  | subtree children =>
    have hmem := h key children ((mem_entries_iff hkeys).mp hentry)
    simp [hmem]

theorem textsOnly_collapse_iff {t : Tree} : t.collapse.TextsOnly ↔ t.TextsOnly := by
  induction t with
  | nil => rfl
  | leaf key value rest ih => cases value <;> simp [collapse, TextsOnly, ih]
  | branch key children rest _ _ =>
    rw [collapse]
    split <;> simp [TextsOnly]

theorem textForms?_isSome_iff {t : Tree} : t.textForms?.isSome ↔ t.TextsOnly := by
  induction t with
  | nil => simp [textForms?, TextsOnly]
  | leaf key value rest ih => cases value <;> simp [textForms?, TextsOnly, ih]
  | branch key children rest => simp [textForms?, TextsOnly]

/-- A subtree stands for a plural if all its children are texts and one of them is `other`. -/
theorem plural?_isSome_iff {t : Tree} :
    t.plural?.isSome ↔ t.TextsOnly ∧ Plural.otherForm ∈ t.keys := by
  rw [Option.isSome_iff_exists, ← textForms?_isSome_iff]
  simp only [plural?_eq_some_iff]
  constructor
  · rintro ⟨record, hforms, hother⟩
    rw [Assoc.lookup_isSome_iff, map_fst_of_textForms? hforms] at hother
    exact ⟨by rw [hforms]; rfl, hother⟩
  · rintro ⟨hsome, hother⟩
    obtain ⟨forms, hforms⟩ := Option.isSome_iff_exists.mp hsome
    refine ⟨⟨forms⟩, hforms, ?_⟩
    rwa [Assoc.lookup_isSome_iff, map_fst_of_textForms? hforms]

theorem collapsed_eq_subtree_iff {node : Node} {children : Tree} :
    node.collapsed = .subtree children ↔
      ∃ inner, node = .subtree inner ∧ inner.plural? = none ∧ inner.collapse = children := by
  cases node with
  | leaf value => simp [Node.collapsed]
  | subtree inner =>
    cases hplural : inner.plural? with
    | none => simp [Node.collapsed, hplural]
    | some record => simp [Node.collapsed, hplural, Node.plural]

theorem get?_collapse_subtree {t children : Tree} {path : KeyPath}
    (h : t.collapse.get? path = some (.subtree children)) :
    ∃ inner : Tree, inner.plural? = none ∧ inner.collapse = children := by
  induction path generalizing t with
  | nil => cases h
  | cons key path ih =>
    have hentry {found : Node} (hfind : t.collapse.find? key = some found) :
        ∃ node : Node, found = node.collapsed := by
      rw [find?_collapse] at hfind
      obtain ⟨node, -, rfl⟩ := Option.map_eq_some_iff.mp hfind
      exact ⟨node, rfl⟩
    cases path with
    | nil =>
      obtain ⟨node, hnode⟩ := hentry h
      obtain ⟨inner, -, hplural, hinner⟩ := collapsed_eq_subtree_iff.mp hnode.symm
      exact ⟨inner, hplural, hinner⟩
    | cons k path =>
      rw [get?_cons_cons] at h
      obtain ⟨found, hfind, h⟩ := Option.bind_eq_some_iff.mp h
      cases found with
      | leaf value => cases h
      | subtree below =>
        obtain ⟨node, hnode⟩ := hentry hfind
        obtain ⟨inner, -, -, rfl⟩ := collapsed_eq_subtree_iff.mp hnode.symm
        exact ih h

/-- No subtree that is left stands for a plural. -/
theorem not_plural_of_collapse {t children : Tree} {path : KeyPath}
    (h : t.collapse.get? path = some (.subtree children)) :
    ¬(children.TextsOnly ∧ Plural.otherForm ∈ children.keys) := by
  obtain ⟨inner, hplural, rfl⟩ := get?_collapse_subtree h
  rw [textsOnly_collapse_iff, keys_collapse, ← plural?_isSome_iff, hplural]
  simp

end Tree
end Phrasebook
