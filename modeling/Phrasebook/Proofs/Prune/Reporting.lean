import Mathlib.Algebra.Order.BigOperators.Group.List
import Mathlib.Algebra.Order.Group.Nat
import Mathlib.Order.WellFounded
import Phrasebook.Proofs.Prune.Selection

/-!
What pruning reports. A leaf that goes is listed by its joined path, except below a joined entry:
that goes as a whole and under its own key, however many leaves it holds. A canonical leaf goes only
from the top level, where a joined variant of its key stands beside it.
-/
namespace Phrasebook.Tree

variable {keys : CanonicalKeys} {separator key : String} {bases : List String} {path : KeyPath}
  {node : Node} {entry : String × Node} {leaf : KeyPath × Phrase} {value : Phrase} {t : Tree}

def stays (keys : CanonicalKeys) (separator : String) (bases : List String) : KeyPath → Bool
  | [] => false
  | key :: path =>
    if isJoined separator key then KeyPath.baseKey separator key ∈ keys.bases
    else ¬(path = [] ∧ key ∈ bases) ∧ KeyPath.join separator (key :: path) ∈ keys.paths

theorem stays_of_mem_entryLeaves (keys : CanonicalKeys) (separator : String)
    (bases : List String) (key : String) (node : Node) :
    ∀ leaf ∈ entryLeaves (key, node), stays keys separator bases leaf.1 =
      if isJoined separator key then decide (KeyPath.baseKey separator key ∈ keys.bases)
      else decide (¬(node.kind = .phrase ∧ key ∈ bases) ∧
        KeyPath.join separator leaf.1 ∈ keys.paths) := by
  intro leaf hleaf
  obtain ⟨path, hpath, htop⟩ := path_of_mem_entryLeaves hleaf
  simp only [hpath, stays, htop]

theorem leavesBelow_pruneBelow (keys : CanonicalKeys) (separator : String) (trail : KeyPath)
    (t : Tree) :
    (t.pruneBelow keys separator trail).tree.leavesBelow trail =
      (t.leavesBelow trail).filter (KeyPath.join separator ·.1 ∈ keys.paths) := by
  induction t generalizing trail with
  | nil => rfl
  | leaf key value rest ih =>
    rw [pruneBelow, leavesBelow, List.filter_cons, ← ih]
    split_ifs with hpath hdecide hdecide
    · rfl
    · exact absurd (decide_eq_true hpath) hdecide
    · exact absurd (of_decide_eq_true hdecide) hpath
    · rfl
  | branch key children rest ihc ihr =>
    simp only [pruneBelow]
    rw [leavesBelow, List.filter_append, ← ihc, ← ihr]
    split_ifs with hgone
    · rw [isEmpty_iff.mp hgone.1]
      rfl
    · rfl

theorem leaves_pruneEntry (keys : CanonicalKeys) (separator : String) (bases : List String)
    (key : String) (node : Node) :
    (pruneEntry keys separator bases key node).tree.leaves =
      (entryLeaves (key, node)).filter (stays keys separator bases ·.1) := by
  rw [List.filter_congr (stays_of_mem_entryLeaves keys separator bases key node), pruneEntry]
  split_ifs with hjoined hbase hvariant
  · simp [hbase, entryLeaves]
  · simp [hbase, leaves, leavesBelow]
  · simp [hvariant, leaves, leavesBelow]
  · rw [leaves, leavesBelow_pruneBelow]
    simp [hvariant, entryLeaves, leaves]

theorem leaves_prune (ht : t.WellFormed) (keys : CanonicalKeys) (separator : String) :
    (t.prune keys separator).tree.leaves =
      t.leaves.filter (stays keys separator (t.joinedBases separator) ·.1) := by
  rw [leaves_eq_flatMap, entries_prune ht, ← flatMap_entries_pruneEntry, List.flatMap_assoc,
    leaves_eq_flatMap t, List.filter_flatMap]
  refine List.flatMap_congr fun entry _ => ?_
  rw [← leaves_eq_flatMap, leaves_pruneEntry]

theorem leaves_prune_eq_filter (ht : t.WellFormed) (keys : CanonicalKeys) (separator : String) :
    (t.prune keys separator).tree.leaves =
      t.leaves.filter (· ∈ (t.prune keys separator).tree.leaves) := by
  conv_lhs => rw [leaves_prune ht]
  refine List.filter_congr fun leaf hleaf => ?_
  simp [leaves_prune ht, hleaf]

/-- Whether an entry goes under one name although it is a subtree. -/
def Lumps (keys : CanonicalKeys) (separator : String) (entry : String × Node) : Prop :=
  isJoined separator entry.1 ∧ KeyPath.baseKey separator entry.1 ∉ keys.bases ∧
    entry.2.kind = .subtree

instance (keys : CanonicalKeys) (separator : String) (entry : String × Node) :
    Decidable (Lumps keys separator entry) :=
  inferInstanceAs (Decidable (_ ∧ _ ∧ _))

/-- The joined entries that hold a subtree and are not canonical. -/
def lumped (keys : CanonicalKeys) (separator : String) (t : Tree) : List (String × Node) :=
  t.entries.filter (Lumps keys separator)

def entryNames (keys : CanonicalKeys) (separator : String) (bases : List String)
    (entry : String × Node) : List String :=
  ((entryLeaves entry).filter fun leaf => !stays keys separator bases leaf.1).map
    (KeyPath.join separator ·.1)

theorem removed_of_lumps (h : Lumps keys separator entry) :
    (pruneEntry keys separator bases entry.1 entry.2).removed = [entry.1] := by
  rw [pruneEntry, if_pos h.1, if_neg h.2.1]

theorem stays_of_lumps (h : Lumps keys separator entry) (hleaf : leaf ∈ entryLeaves entry) :
    stays keys separator bases leaf.1 = false := by
  obtain ⟨path, hpath, -⟩ := path_of_mem_entryLeaves hleaf
  simp [hpath, stays, h.1, h.2.1]

theorem entryNames_of_lumps (h : Lumps keys separator entry) :
    entryNames keys separator bases entry =
      (entryLeaves entry).map (KeyPath.join separator ·.1) := by
  rw [entryNames, List.filter_eq_self.mpr]
  intro leaf hleaf
  rw [stays_of_lumps h hleaf]
  rfl

/-- The name of what a joined subtree holds is longer than its key. -/
theorem length_lt_of_mem_entryNames {name : String} (h : Lumps keys separator entry)
    (hname : name ∈ entryNames keys separator bases entry) : entry.1.length < name.length := by
  rw [entryNames_of_lumps h] at hname
  obtain ⟨leaf, hleaf, rfl⟩ := List.mem_map.mp hname
  obtain ⟨path, hpath, htop⟩ := path_of_mem_entryLeaves hleaf
  have hbelow : path ≠ [] := by simp [htop, h.2.2]
  have hsep : separator ≠ "" := by simpa using (Bool.and_eq_true_iff.mp h.1).1
  have hpos : 0 < separator.length := by
    rw [Nat.pos_iff_ne_zero]
    simpa using hsep
  rw [hpath, KeyPath.join, String.intercalate_cons_of_ne_nil hbelow, String.length_append,
    String.length_append]
  omega

theorem removed_of_not_lumps (h : ¬Lumps keys separator entry) :
    (pruneEntry keys separator bases entry.1 entry.2).removed =
      entryNames keys separator bases entry := by
  obtain ⟨key, node⟩ := entry
  have hstays := stays_of_mem_entryLeaves keys separator bases key node
  rw [entryNames, List.filter_congr fun leaf hleaf => congrArg not (hstays leaf hleaf), pruneEntry]
  split_ifs with hjoined hbase hvariant
  · simp [hbase]
  · cases node with
    | leaf value => simp [hbase, KeyPath.join]
    | subtree children => exact absurd ⟨hjoined, hbase, rfl⟩ h
  · cases node with
    | leaf value => simp [hvariant, KeyPath.join]
    | subtree children => cases hvariant.1
  · rw [removed_pruneBelow, List.filter_map]
    simp [hvariant, entryLeaves, leaves, Function.comp_def]

theorem removed_prune (keys : CanonicalKeys) (separator : String) (t : Tree) :
    (t.prune keys separator).removed = t.entries.flatMap fun entry =>
      (pruneEntry keys separator (t.joinedBases separator) entry.1 entry.2).removed := by
  rw [prune_eq]
  exact List.flatMap_map ..

theorem names_dropped (ht : t.WellFormed) (keys : CanonicalKeys) (separator : String) :
    (t.leaves.filter (· ∉ (t.prune keys separator).tree.leaves)).map (KeyPath.join separator ·.1) =
      t.entries.flatMap (entryNames keys separator (t.joinedBases separator)) := by
  have hdropped : t.leaves.filter (· ∉ (t.prune keys separator).tree.leaves) =
      t.leaves.filter fun leaf => !stays keys separator (t.joinedBases separator) leaf.1 := by
    refine List.filter_congr fun leaf hleaf => ?_
    simp [leaves_prune ht, hleaf]
  rw [hdropped, leaves_eq_flatMap, List.filter_flatMap, List.map_flatMap]
  rfl

theorem length_removed (keys : CanonicalKeys) (separator : String) (bases : List String)
    (entries : List (String × Node)) :
    let lumped := entries.filter (Lumps keys separator)
    (entries.flatMap fun entry =>
        (pruneEntry keys separator bases entry.1 entry.2).removed).length +
        (lumped.flatMap entryLeaves).length =
      (entries.flatMap (entryNames keys separator bases)).length + lumped.length := by
  induction entries with
  | nil => rfl
  | cons entry rest ih =>
    simp only [List.flatMap_cons, List.length_append] at ih ⊢
    by_cases hlumps : Lumps keys separator entry
    · rw [List.filter_cons_of_pos (by simpa using hlumps), removed_of_lumps hlumps,
        entryNames_of_lumps hlumps, List.flatMap_cons, List.length_append, List.length_map,
        List.length_singleton, List.length_cons]
      omega
    · rw [List.filter_cons_of_neg (by simpa using hlumps), removed_of_not_lumps hlumps]
      omega

/-- A lumped entry of least length is named more often than a leaf of that name goes. -/
theorem removed_ne_of_lumped {entries : List (String × Node)} (hmem : entry ∈ entries)
    (hlumps : Lumps keys separator entry) :
    (entries.flatMap fun other =>
        (pruneEntry keys separator bases other.1 other.2).removed) ≠
      entries.flatMap (entryNames keys separator bases) := by
  obtain ⟨shortest, ⟨hshortest, hlumped⟩, hleast⟩ :=
    WellFounded.has_min (measure fun other : String × Node => other.1.length).wf
      {other | other ∈ entries ∧ Lumps keys separator other} ⟨entry, hmem, hlumps⟩
  have hnone {other : String × Node} (hother : other ∈ entries)
      (h : Lumps keys separator other) :
      (entryNames keys separator bases other).count shortest.1 = 0 := by
    refine List.count_eq_zero_of_not_mem fun hname => ?_
    exact hleast other ⟨hother, h⟩ (length_lt_of_mem_entryNames h hname)
  have hcount : (entries.flatMap (entryNames keys separator bases)).count shortest.1 <
      (entries.flatMap fun other =>
        (pruneEntry keys separator bases other.1 other.2).removed).count shortest.1 := by
    rw [List.count_flatMap, List.count_flatMap]
    refine List.sum_lt_sum _ _ (fun other hother => ?_) ⟨shortest, hshortest, ?_⟩
    · by_cases h : Lumps keys separator other
      · rw [Function.comp_apply, hnone hother h]
        exact Nat.zero_le _
      · rw [Function.comp_apply, Function.comp_apply, removed_of_not_lumps h]
    · rw [Function.comp_apply, Function.comp_apply, hnone hshortest hlumped,
        removed_of_lumps hlumped, List.count_singleton_self]
      exact Nat.one_pos
  intro heq
  rw [heq] at hcount
  exact Nat.lt_irrefl _ hcount

/-- Pruning reports the leaves it drops by their joined paths and in their order, unless it drops a
joined subtree: that is reported once, whatever the number of its leaves. -/
theorem prune_reports_dropped (ht : t.WellFormed) (keys : CanonicalKeys) (separator : String) :
    let pruned := t.prune keys separator
    let dropped := t.leaves.filter (· ∉ pruned.tree.leaves)
    let lumped := t.lumped keys separator
    pruned.tree.leaves = t.leaves.filter (· ∈ pruned.tree.leaves) ∧
      pruned.removed.length + (lumped.flatMap entryLeaves).length =
        dropped.length + lumped.length ∧
      (pruned.removed.length = t.leaves.length - pruned.tree.leaves.length ↔
        (lumped.flatMap entryLeaves).length = lumped.length) ∧
      (pruned.removed = dropped.map (KeyPath.join separator ·.1) ↔ lumped = []) := by
  intro pruned dropped lumped
  have hkept : pruned.tree.leaves = t.leaves.filter (· ∈ pruned.tree.leaves) :=
    leaves_prune_eq_filter ht keys separator
  have hnames : dropped.map (KeyPath.join separator ·.1) =
      t.entries.flatMap (entryNames keys separator (t.joinedBases separator)) :=
    names_dropped ht keys separator
  have hlength : pruned.removed.length + (lumped.flatMap entryLeaves).length =
      dropped.length + lumped.length := by
    have hdropped := congrArg List.length hnames
    rw [List.length_map] at hdropped
    rw [hdropped, removed_prune]
    exact length_removed keys separator (t.joinedBases separator) t.entries
  have htotal : t.leaves.length = pruned.tree.leaves.length + dropped.length := by
    have hsplit := List.length_eq_length_filter_add (l := t.leaves) (· ∈ pruned.tree.leaves)
    rw [← hkept] at hsplit
    simpa [dropped] using hsplit
  refine ⟨hkept, hlength, by omega, ?_⟩
  rw [hnames, removed_prune]
  constructor
  · intro heq
    refine List.filter_eq_nil_iff.mpr fun entry hmem hlumps => ?_
    exact removed_ne_of_lumped hmem (of_decide_eq_true hlumps) heq
  · intro hnil
    refine List.flatMap_congr fun entry hmem => removed_of_not_lumps fun hlumps => ?_
    exact List.filter_eq_nil_iff.mp hnil entry hmem (decide_eq_true hlumps)

/-- A joined text and a nested one go, each under its own name. -/
theorem dropped_texts_reported :
    let t : Tree := .leaf "rooms|one" (.text "Raum")
      (.branch "gone" (.branch "deep" (.leaf "leaf" (.text "x") .nil) .nil)
        (.leaf "a" (.text "A") .nil))
    let pruned := t.prune ⟨["a"], ["a"]⟩ "|"
    t.WellFormed ∧
      pruned.removed = (t.leaves.filter (· ∉ pruned.tree.leaves)).map (KeyPath.join "|" ·.1) := by
  intro t pruned
  have ht : t.WellFormed := by simp [t, Tree.WellFormed, Phrase.WellFormed]
  exact ⟨ht, (prune_reports_dropped ht ⟨["a"], ["a"]⟩ "|").2.2.2.mpr (by decide)⟩

/-- A joined subtree with two leaves goes under its one key. -/
theorem joined_subtree_reported_once :
    ¬∀ (t : Tree) (keys : CanonicalKeys) (separator : String), t.WellFormed →
      let pruned := t.prune keys separator
      pruned.removed.length = t.leaves.length - pruned.tree.leaves.length ∧
        pruned.removed =
          (t.leaves.filter (· ∉ pruned.tree.leaves)).map (KeyPath.join separator ·.1) := by
  intro hall
  let t : Tree := .branch "a|b" (.leaf "x" (.text "1") (.leaf "y" (.text "2") .nil)) .nil
  have ht : t.WellFormed := by simp [t, Tree.WellFormed, Phrase.WellFormed]
  exact absurd (hall t ⟨[], []⟩ "|" ht).1 (by decide)

theorem getLeaf?_prune_iff (ht : t.WellFormed) :
    (t.prune keys separator).tree.getLeaf? path = some value ↔
      t.getLeaf? path = some value ∧ stays keys separator (t.joinedBases separator) path := by
  have hkept := (trimmed_prune ht keys separator).wellFormed ht
  rw [← mem_leaves_iff hkept, ← mem_leaves_iff ht, leaves_prune ht, List.mem_filter]

/-- Below a plain key, pruning keeps each leaf that the canonical tree defines, a plural as well as
a text, unless it stands at the top level beside a joined variant of its key. -/
theorem canonical_leaf_kept_iff (canonical : Tree) (ht : t.WellFormed)
    (hleaf : t.getLeaf? (key :: path) = some value) (hplain : isJoined separator key = false)
    (hdefined : ∃ defined ∈ (canonical.expandFlat separator).1.leaves,
      KeyPath.join separator defined.1 = KeyPath.join separator (key :: path)) :
    (t.prune (.ofTree separator canonical) separator).tree.getLeaf? (key :: path) = some value ↔
      ¬(path = [] ∧ HasVariant separator t.keys key) := by
  have hpath : KeyPath.join separator (key :: path) ∈
      (CanonicalKeys.ofTree separator canonical).paths := List.mem_map.mpr hdefined
  rw [getLeaf?_prune_iff ht, and_iff_right hleaf, ← mem_joinedBases_iff]
  simp only [stays, hplain, hpath, and_true, decide_eq_true_eq, Bool.false_eq_true, ↓reduceIte]

/-- A plural at the top level stays, and so does one below it, beside a variant of another key. -/
theorem plural_without_variant_kept :
    let record : Plural := ⟨[("one", "Raum"), ("other", "Räume")]⟩
    let canonical : Tree := .leaf "rooms" (.plural ⟨[("one", "room"), ("other", "rooms")]⟩)
      (.branch "files" (.leaf "all" (.plural ⟨[("other", "files")]⟩) .nil) .nil)
    let t : Tree := .leaf "rooms" (.plural record) (.leaf "files|one" (.text "Datei")
      (.branch "files" (.leaf "all" (.plural record) .nil) .nil))
    let kept := (t.prune (.ofTree "|" canonical) "|").tree
    t.WellFormed ∧ kept.getLeaf? ["rooms"] = some (.plural record) ∧
      kept.getLeaf? ["files", "all"] = some (.plural record) := by
  intro record canonical t kept
  have hrecord : record.WellFormed := ⟨by decide, by decide⟩
  have ht : t.WellFormed := by simp [t, Tree.WellFormed, Phrase.WellFormed, hrecord]
  exact ⟨ht,
    (canonical_leaf_kept_iff canonical ht (by decide) (by decide) (by decide)).mpr (by decide),
    (canonical_leaf_kept_iff canonical ht (by decide) (by decide) (by decide)).mpr (by decide)⟩

/-- A plural goes like a plain text when a joined key stands beside it. -/
theorem plural_beside_variant_removed :
    ¬∀ (canonical t : Tree) (separator key : String) (path : KeyPath) (record : Plural),
      t.WellFormed → t.getLeaf? (key :: path) = some (.plural record) →
      isJoined separator key = false →
      (∃ defined ∈ (canonical.expandFlat separator).1.leaves,
        KeyPath.join separator defined.1 = KeyPath.join separator (key :: path)) →
      (t.prune (.ofTree separator canonical) separator).tree.getLeaf? (key :: path) =
        some (.plural record) := by
  intro hall
  let record : Plural := ⟨[("one", "x"), ("other", "y")]⟩
  let canonical : Tree := .leaf "files" (.plural ⟨[("one", "a"), ("other", "b")]⟩) .nil
  let t : Tree := .leaf "files" (.plural record) (.leaf "files|one" (.text "z") .nil)
  have hrecord : record.WellFormed := ⟨by decide, by decide⟩
  have ht : t.WellFormed := by simp [t, Tree.WellFormed, Phrase.WellFormed, hrecord]
  exact absurd (hall canonical t "|" "files" [] record ht (by decide) (by decide) (by decide))
    (by decide)

end Phrasebook.Tree
