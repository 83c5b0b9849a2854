import Phrasebook.Proofs.Splitting
import Phrasebook.Proofs.Tree.Leafy
import Phrasebook.Proofs.Tree.Trimming
import Phrasebook.Prune

/-!
What pruning leaves of a locale: which leaves go, and which subtrees go with them.
-/
namespace Phrasebook

def Node.pruned? (keys : CanonicalKeys) (separator : String) (path : KeyPath) :
    Node → Option Node
  | .leaf value => if KeyPath.join separator path ∈ keys.paths then some (.leaf value) else none
  | .subtree children =>
    let inner := children.pruneBelow keys separator path
    if inner.tree.isEmpty ∧ !inner.removed.isEmpty then none else some (.subtree inner.tree)

def Node.prunedTop? (keys : CanonicalKeys) (separator : String) (bases : List String)
    (key : String) (node : Node) : Option Node :=
  if Tree.isJoined separator key then
    if KeyPath.baseKey separator key ∈ keys.bases then some node else none
  else if node.kind = .phrase ∧ key ∈ bases then none
  else node.pruned? keys separator [key]

namespace Tree

variable {keys : CanonicalKeys} {separator key : String} {path : KeyPath} {value : Phrase}
  {t : Tree}

theorem entries_pruneBelow (keys : CanonicalKeys) (separator : String) (trail : KeyPath)
    (t : Tree) :
    (t.pruneBelow keys separator trail).tree.entries =
      keepEntries (fun key => Node.pruned? keys separator (trail.child key)) t.entries := by
  induction t with
  | nil => rfl
  | leaf key value rest ih =>
    rw [pruneBelow, entries, keepEntries_cons, Node.pruned?, ← ih]
    split_ifs <;> rfl
  | branch key children rest _ ih =>
    rw [pruneBelow, entries, keepEntries_cons, Node.pruned?, ← ih]
    split_ifs <;> rfl

/-- The removed keys are those of the leaves that are not canonical, in document order. -/
theorem removed_pruneBelow (keys : CanonicalKeys) (separator : String) (trail : KeyPath)
    (t : Tree) :
    (t.pruneBelow keys separator trail).removed =
      ((t.leavesBelow trail).map fun leaf => KeyPath.join separator leaf.1).filter
        (· ∉ keys.paths) := by
  induction t generalizing trail with
  | nil => rfl
  | leaf key value rest ih =>
    simp only [pruneBelow, leavesBelow, List.map_cons, List.filter_cons]
    by_cases hpath : KeyPath.join separator (trail.child key) ∈ keys.paths <;> simp [hpath, ih]
  | branch key children rest ihc ihr =>
    have hremoved : (pruneBelow keys separator trail (.branch key children rest)).removed =
        (children.pruneBelow keys separator (trail.child key)).removed ++
          (rest.pruneBelow keys separator trail).removed := by
      simp only [pruneBelow]
      split_ifs <;> rfl
    rw [hremoved, ihc, ihr, leavesBelow, List.map_append, List.filter_append]

theorem trimmed_pruneBelow (keys : CanonicalKeys) (separator : String) (trail : KeyPath)
    (t : Tree) : (t.pruneBelow keys separator trail).tree.Trimmed t := by
  induction t generalizing trail with
  | nil => exact .nil
  | leaf key value rest ih =>
    rw [pruneBelow]
    split_ifs
    · exact .leaf key value (ih trail)
    · exact .skipLeaf key value (ih trail)
  | branch key children rest ihc ihr =>
    simp only [pruneBelow]
    split_ifs
    · exact .skipBranch key children (ihr trail)
    · exact .branch key (ihc _) (ihr trail)

theorem find?_pruneBelow (ht : t.keys.Nodup) (trail : KeyPath) (key : String) :
    (t.pruneBelow keys separator trail).tree.find? key =
      (t.find? key).bind (Node.pruned? keys separator (trail.child key)) := by
  rw [find?_eq_lookup, find?_eq_lookup, entries_pruneBelow]
  exact lookup_keepEntries (fun key => Node.pruned? keys separator (trail.child key)) ht key

/-- A path leads to what is left of the node there. Where a subtree on the way is gone, nothing is
left below it either. -/
theorem get?_pruneBelow (ht : t.WellFormed) (trail path : KeyPath) :
    (t.pruneBelow keys separator trail).tree.get? path =
      (t.get? path).bind (Node.pruned? keys separator (trail ++ path)) := by
  refine get?_of_kept (fun trail t => (t.pruneBelow keys separator trail).tree)
    (Node.pruned? keys separator)
    (fun trail _ ht key => find?_pruneBelow ht.nodup_keys trail key)
    (fun trail value => ?_) (fun trail children => ?_) ht trail path
  · rw [Node.pruned?]
    split_ifs
    · exact .inr rfl
    · exact .inl rfl
  · rw [Node.pruned?]
    split_ifs with hgone
    · exact .inr ⟨rfl, isEmpty_iff.mp hgone.1⟩
    · exact .inl rfl

/-- Where every leaf goes, a key is removed exactly if there is a leaf. -/
theorem removed_pruneBelow_ne_nil_iff {trail : KeyPath}
    (hall : ∀ leaf ∈ t.leavesBelow trail, KeyPath.join separator leaf.1 ∉ keys.paths) :
    (t.pruneBelow keys separator trail).removed ≠ [] ↔ t.leaves ≠ [] := by
  have hremoved : ((t.leavesBelow trail).map fun leaf => KeyPath.join separator leaf.1).filter
      (· ∉ keys.paths) = (t.leavesBelow trail).map fun leaf => KeyPath.join separator leaf.1 :=
    List.filter_eq_self.mpr
      (List.forall_mem_map.mpr fun leaf hleaf => decide_eq_true (hall leaf hleaf))
  rw [removed_pruneBelow, hremoved, leavesBelow_eq_map]
  simp

/-- Nothing is left of a tree when all its leaves go and no subtree is without any: a subtree that
loses nothing stays, however empty it is. -/
theorem pruneBelow_eq_nil_iff (trail : KeyPath) :
    (t.pruneBelow keys separator trail).tree = .nil ↔
      (∀ leaf ∈ t.leavesBelow trail, KeyPath.join separator leaf.1 ∉ keys.paths) ∧ t.Leafy := by
  induction t generalizing trail with
  | nil => simp [pruneBelow, leavesBelow, Leafy]
  | leaf key value rest ih =>
    simp only [pruneBelow, leavesBelow, List.forall_mem_cons, Leafy]
    split_ifs with hpath
    · simp [hpath]
    · simp [hpath, ih]
  | branch key children rest ihc ihr =>
    simp only [pruneBelow, leavesBelow, List.forall_mem_append, Leafy]
    split_ifs with hgone
    · obtain ⟨hempty, hsome⟩ := hgone
      have hinner := (ihc _).mp (isEmpty_iff.mp hempty)
      have hleaves := (removed_pruneBelow_ne_nil_iff hinner.1).mp (by simpa using hsome)
      rw [ihr]
      exact ⟨fun h => ⟨⟨hinner.1, h.1⟩, hleaves, hinner.2, h.2⟩, fun h => ⟨h.1.2, h.2.2.2⟩⟩
    · refine iff_of_false (by simp) ?_
      rintro ⟨⟨hall, -⟩, hleaves, hleafy, -⟩
      have hremoved := (removed_pruneBelow_ne_nil_iff hall).mpr hleaves
      exact hgone ⟨isEmpty_iff.mpr ((ihc _).mpr ⟨hall, hleafy⟩), by simpa using hremoved⟩

theorem pruned?_subtree_eq_none_iff {children : Tree} :
    (Node.subtree children).pruned? keys separator path = none ↔
      children.leaves ≠ [] ∧
        (∀ leaf ∈ children.leaves, KeyPath.join separator (path ++ leaf.1) ∉ keys.paths) ∧
        children.Leafy := by
  have hgone : (Node.subtree children).pruned? keys separator path = none ↔
      (children.pruneBelow keys separator path).tree = .nil ∧
        (children.pruneBelow keys separator path).removed ≠ [] := by
    rw [Node.pruned?]
    split_ifs with h
    · simpa [isEmpty_iff] using h
    · simpa [isEmpty_iff] using h
  have hleaves : (∀ leaf ∈ children.leavesBelow path,
      KeyPath.join separator leaf.1 ∉ keys.paths) ↔
        ∀ leaf ∈ children.leaves, KeyPath.join separator (path ++ leaf.1) ∉ keys.paths := by
    rw [leavesBelow_eq_map, List.forall_mem_map]
  rw [hgone, pruneBelow_eq_nil_iff, ← hleaves]
  constructor
  · rintro ⟨⟨hall, hleafy⟩, hsome⟩
    exact ⟨(removed_pruneBelow_ne_nil_iff hall).mp hsome, hall, hleafy⟩
  · rintro ⟨hsome, hall, hleafy⟩
    exact ⟨⟨hall, hleafy⟩, (removed_pruneBelow_ne_nil_iff hall).mpr hsome⟩

theorem entries_pruneEntry (keys : CanonicalKeys) (separator : String) (bases : List String)
    (key : String) (node : Node) :
    (pruneEntry keys separator bases key node).tree.entries =
      ((node.prunedTop? keys separator bases key).map (key, ·)).toList := by
  rw [pruneEntry, Node.prunedTop?]
  split_ifs
  · exact entries_cons key node .nil
  · rfl
  · rfl
  · rw [entries_pruneBelow, entries_cons, keepEntries_cons]
    simp [entries, keepEntries, KeyPath.child]

/-- A tree is pruned entry by entry. -/
theorem prune_eq (keys : CanonicalKeys) (separator : String) (t : Tree) :
    let parts := t.entries.map fun entry =>
      pruneEntry keys separator (t.joinedBases separator) entry.1 entry.2
    t.prune keys separator =
      ⟨ofEntries (parts.flatMap (·.tree.entries)), parts.flatMap (·.removed)⟩ :=
  rfl

theorem flatMap_entries_pruneEntry (keys : CanonicalKeys) (separator : String)
    (bases : List String) (entries : List (String × Node)) :
    (entries.flatMap fun entry => (pruneEntry keys separator bases entry.1 entry.2).tree.entries) =
      keepEntries (Node.prunedTop? keys separator bases) entries := by
  induction entries with
  | nil => rfl
  | cons entry rest ih => rw [List.flatMap_cons, ih, keepEntries_cons, entries_pruneEntry]

theorem entries_prune (ht : t.WellFormed) (keys : CanonicalKeys) (separator : String) :
    (t.prune keys separator).tree.entries =
      keepEntries (Node.prunedTop? keys separator (t.joinedBases separator)) t.entries := by
  rw [prune_eq, List.flatMap_map, flatMap_entries_pruneEntry]
  apply entries_ofEntries
  exact (map_fst_keepEntries_sublist _ _).nodup ht.nodup_keys

theorem find?_prune (ht : t.WellFormed) (key : String) :
    (t.prune keys separator).tree.find? key =
      (t.find? key).bind (Node.prunedTop? keys separator (t.joinedBases separator) key) := by
  rw [find?_eq_lookup, find?_eq_lookup, entries_prune ht]
  exact lookup_keepEntries _ ht.nodup_keys key

theorem trimmed_pruned? {children : Tree} {kept : Node}
    (h : (Node.subtree children).pruned? keys separator path = some kept) :
    ∃ inner, kept = .subtree inner ∧ inner.Trimmed children := by
  rw [Node.pruned?] at h
  split_ifs at h
  cases h
  exact ⟨_, rfl, trimmed_pruneBelow keys separator path children⟩

theorem eq_leaf_of_prunedTop? {bases : List String} {kept : Node}
    (h : (Node.leaf value).prunedTop? keys separator bases key = some kept) :
    kept = .leaf value := by
  simp only [Node.prunedTop?, Node.pruned?] at h
  split_ifs at h <;> exact (Option.some.inj h).symm

theorem trimmed_prune (ht : t.WellFormed) (keys : CanonicalKeys) (separator : String) :
    (t.prune keys separator).tree.Trimmed t := by
  refine trimmed_of_keepEntries ?_ ?_ (entries_prune ht keys separator)
  · intro key value kept hkept
    exact eq_leaf_of_prunedTop? hkept
  · intro key children kept hkept
    rw [Option.mem_def, Node.prunedTop?] at hkept
    split_ifs at hkept with hjoined hbase hvariant
    · cases hkept
      exact ⟨children, rfl, .refl children⟩
    · exact trimmed_pruned? hkept

theorem mem_joinedBases_iff : key ∈ t.joinedBases separator ↔ HasVariant separator t.keys key := by
  simp [joinedBases, HasVariant, and_assoc]

/-- Below a plain key, a path leads to what is left of the node there. -/
theorem get?_prune (ht : t.WellFormed) (hplain : isJoined separator key = false)
    (hentry : path = [] → ∀ value, t.find? key = some (.leaf value) →
      ¬HasVariant separator t.keys key) :
    (t.prune keys separator).tree.get? (key :: path) =
      (t.get? (key :: path)).bind (Node.pruned? keys separator (key :: path)) := by
  have hpruned {node : Node} (hnode : node.kind = .phrase → ¬HasVariant separator t.keys key) :
      node.prunedTop? keys separator (t.joinedBases separator) key =
        node.pruned? keys separator [key] := by
    rw [Node.prunedTop?, if_neg (by simp [hplain]), if_neg]
    rintro ⟨hkind, hmem⟩
    exact hnode hkind (mem_joinedBases_iff.mp hmem)
  cases path with
  | nil =>
    rw [get?, get?, find?_prune ht]
    cases hfind : t.find? key with
    | none => rfl
    | some node =>
      refine hpruned fun hkind => ?_
      cases node with
      | leaf value => exact hentry rfl value hfind
      | subtree children => cases hkind
  | cons k path =>
    rw [get?_cons_cons, get?_cons_cons, find?_prune ht]
    cases hfind : t.find? key with
    | none => rfl
    | some node =>
      cases node with
      | leaf value =>
        rw [Option.bind_some]
        cases hkept : (Node.leaf value).prunedTop? keys separator (t.joinedBases separator) key with
        | none => rfl
        | some kept =>
          rw [eq_leaf_of_prunedTop? hkept]
          rfl
      | subtree children =>
        have hinner : (children.pruneBelow keys separator [key]).tree.get? (k :: path) =
            (children.get? (k :: path)).bind (Node.pruned? keys separator (key :: k :: path)) :=
          get?_pruneBelow (ht.find? hfind) [key] (k :: path)
        rw [Option.bind_some, Option.bind_some, ← hinner, hpruned (by simp [Node.kind]),
          Node.pruned?]
        split_ifs with hgone
        · rw [isEmpty_iff.mp hgone.1]
          cases path <;> rfl
        · rfl

theorem getLeaf?_prune (ht : t.WellFormed) (hplain : isJoined separator key = false)
    (hentry : ¬(path = [] ∧ HasVariant separator t.keys key))
    (hleaf : t.getLeaf? (key :: path) = some value) :
    (t.prune keys separator).tree.getLeaf? (key :: path) =
      if KeyPath.join separator (key :: path) ∈ keys.paths then some value else none := by
  obtain ⟨node, hget, hvalue⟩ := Option.bind_eq_some_iff.mp hleaf
  obtain rfl : node = .leaf value := by
    cases node with
    | leaf found => rw [Option.some.inj hvalue]
    | subtree children => cases hvalue
  rw [getLeaf?, get?_prune ht hplain fun hpath _ _ hvariant => hentry ⟨hpath, hvariant⟩, hget,
    Option.bind_some, Node.pruned?]
  split_ifs <;> rfl

/-- A subtree goes with the last of its leaves, unless there is an empty subtree in it. -/
theorem get?_prune_eq_none_iff {children : Tree} (ht : t.WellFormed)
    (hplain : isJoined separator key = false)
    (hget : t.get? (key :: path) = some (.subtree children)) :
    (t.prune keys separator).tree.get? (key :: path) = none ↔
      children.leaves ≠ [] ∧
        (∀ leaf ∈ children.leaves,
          (t.prune keys separator).tree.getLeaf? (key :: path ++ leaf.1) = none) ∧
        ∀ inner below, children.get? inner = some (.subtree below) → below.leaves ≠ [] := by
  have hchildren : children.WellFormed := ht.get? hget
  have hsubtree (hpath : path = []) (value : Phrase) (hfind : t.find? key = some (.leaf value)) :
      ¬HasVariant separator t.keys key := by
    subst hpath
    rw [get?, hfind] at hget
    cases hget
  have hremoved : (∀ leaf ∈ children.leaves,
        (t.prune keys separator).tree.getLeaf? (key :: path ++ leaf.1) = none) ↔
      ∀ leaf ∈ children.leaves,
        KeyPath.join separator (key :: path ++ leaf.1) ∉ keys.paths := by
    refine forall₂_congr fun leaf hleaf => ?_
    have hinner := (mem_leaves_iff hchildren).mp hleaf
    have hne : leaf.1 ≠ [] := ne_nil_of_mem_leaves hleaf
    have hbelow : t.getLeaf? (key :: path ++ leaf.1) = some leaf.2 := by
      rw [getLeaf?, get?_append hne hget]
      exact hinner
    have hkept : (t.prune keys separator).tree.getLeaf? (key :: path ++ leaf.1) =
        if KeyPath.join separator (key :: path ++ leaf.1) ∈ keys.paths then some leaf.2
        else none := getLeaf?_prune ht hplain (by simp [hne]) hbelow
    rw [hkept]
    simp
  rw [get?_prune ht hplain hsubtree, hget, Option.bind_some, pruned?_subtree_eq_none_iff,
    hremoved, leafy_iff hchildren]

/-- Pruning takes out joined entries by their base keys, leaves that have joined variants beside
them, and other leaves by their paths, and with the leaves the subtrees in which nothing else is.
What it leaves stays as it is. -/
theorem prune_removes_uncanonical (ht : t.WellFormed) (keys : CanonicalKeys) (separator : String) :
    let kept := (t.prune keys separator).tree
    kept.Trimmed t ∧
      (∀ key node, t.find? key = some node → isJoined separator key →
        kept.find? key = if KeyPath.baseKey separator key ∈ keys.bases then some node else none) ∧
      (∀ key value, t.find? key = some (.leaf value) → isJoined separator key = false →
        HasVariant separator t.keys key → kept.find? key = none) ∧
      (∀ key path value, t.getLeaf? (key :: path) = some value → isJoined separator key = false →
        ¬(path = [] ∧ HasVariant separator t.keys key) →
        kept.getLeaf? (key :: path) =
          if KeyPath.join separator (key :: path) ∈ keys.paths then some value else none) ∧
      ∀ key path children, t.get? (key :: path) = some (.subtree children) →
        isJoined separator key = false →
        (kept.get? (key :: path) = none ↔
          children.leaves ≠ [] ∧
            (∀ leaf ∈ children.leaves, kept.getLeaf? (key :: path ++ leaf.1) = none) ∧
            ∀ inner below, children.get? inner = some (.subtree below) → below.leaves ≠ []) := by
  intro kept
  refine ⟨trimmed_prune ht keys separator, ?_, ?_, ?_, ?_⟩
  · intro key node hfind hjoined
    rw [find?_prune ht, hfind, Option.bind_some, Node.prunedTop?, if_pos hjoined]
  · intro key value hfind hplain hvariant
    have hmem := mem_joinedBases_iff.mpr hvariant
    rw [find?_prune ht, hfind, Option.bind_some, Node.prunedTop?, if_neg (by simp [hplain]),
      if_pos ⟨rfl, hmem⟩]
  · intro key path value hleaf hplain hentry
    exact getLeaf?_prune ht hplain hentry hleaf
  · intro key path children hget hplain
    exact get?_prune_eq_none_iff ht hplain hget

/-- A locale with both kinds of entries: a plain text beside its variants goes, a variant of a
canonical key stays, and a subtree goes with its leaf while an empty one beside it stays. -/
theorem mixed_locale_pruned :
    let t : Tree := .leaf "files" (.text "a") (.leaf "files|one" (.text "b")
      (.branch "room" (.branch "old" (.leaf "x" (.text "c") .nil) (.branch "new" .nil .nil)) .nil))
    let kept := (t.prune ⟨["files"], ["files"]⟩ "|").tree
    t.WellFormed ∧ kept.find? "files|one" = some (.text "b") ∧ kept.find? "files" = none ∧
      kept.getLeaf? ["room", "old", "x"] = none ∧ kept.get? ["room", "old"] = none := by
  intro t kept
  have ht : t.WellFormed := by simp [t, Tree.WellFormed, Phrase.WellFormed]
  obtain ⟨-, hjoined, hvariant, hleaf, hsubtree⟩ :=
    prune_removes_uncanonical ht ⟨["files"], ["files"]⟩ "|"
  refine ⟨ht, hjoined "files|one" (.text "b") (by decide) (by decide),
    hvariant "files" (.text "a") (by decide) (by decide) (by decide),
    hleaf "room" ["old", "x"] (.text "c") (by decide) (by decide) (by decide), ?_⟩
  have hold : (Tree.leaf "x" (.text "c") .nil).WellFormed := by
    simp [Tree.WellFormed, Phrase.WellFormed]
  exact (hsubtree "room" ["old"] (.leaf "x" (.text "c") .nil) (by decide) (by decide)).mpr
    ⟨by decide, by decide, (leafy_iff hold).mp trivial⟩

end Tree
end Phrasebook
