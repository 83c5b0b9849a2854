import Phrasebook.Proofs.Prune.Selection
import Phrasebook.Proofs.Tree.RoundTrip

/-!
Pruning what is pruned already. What is left has only canonical keys, comes back from its file, and
loses nothing a second time.
-/
namespace Phrasebook.Tree

variable {keys : CanonicalKeys} {separator key : String} {node kept : Node} {t : Tree}

theorem pruneBelow_eq_self {trail : KeyPath}
    (h : ∀ leaf ∈ t.leavesBelow trail, KeyPath.join separator leaf.1 ∈ keys.paths) :
    t.pruneBelow keys separator trail = ⟨t, []⟩ := by
  induction t generalizing trail with
  | nil => rfl
  | leaf key value rest ih =>
    rw [leavesBelow, List.forall_mem_cons] at h
    rw [pruneBelow, if_pos h.1, ih h.2]
  | branch key children rest ihc ihr =>
    rw [leavesBelow, List.forall_mem_append] at h
    simp only [pruneBelow]
    rw [ihc h.1, ihr h.2]
    simp

/-- A tree stays as it is when each of its entries does. -/
theorem prune_eq_self (ht : t.WellFormed)
    (h : ∀ key node, (key, node) ∈ t.entries →
      pruneEntry keys separator (t.joinedBases separator) key node = ⟨cons key node .nil, []⟩) :
    t.prune keys separator = ⟨t, []⟩ := by
  have hparts : (t.entries.map fun entry =>
      pruneEntry keys separator (t.joinedBases separator) entry.1 entry.2) =
        t.entries.map fun entry => (⟨cons entry.1 entry.2 .nil, []⟩ : Pruned) :=
    List.map_congr_left fun entry hentry => h entry.1 entry.2 hentry
  have hentries : (t.entries.map fun entry =>
      (⟨cons entry.1 entry.2 .nil, []⟩ : Pruned)).flatMap (·.tree.entries) = t.entries := by
    simp [List.flatMap_map, entries]
  have hremoved : (t.entries.map fun entry =>
      (⟨cons entry.1 entry.2 .nil, []⟩ : Pruned)).flatMap (·.removed) = [] := by
    rw [List.flatMap_eq_nil_iff, List.forall_mem_map]
    intro entry _
    rfl
  have htree : ofEntries t.entries = t := entries_injective (entries_ofEntries ht.nodup_keys)
  rw [prune_eq, hparts, hentries, hremoved, htree]

theorem pruneEntry_of_plain (bases : List String) (hplain : isJoined separator key = false)
    (hvariant : node.kind = .phrase → key ∉ bases)
    (h : ∀ leaf ∈ (cons key node .nil).leaves, KeyPath.join separator leaf.1 ∈ keys.paths) :
    pruneEntry keys separator bases key node = ⟨cons key node .nil, []⟩ := by
  rw [pruneEntry, if_neg (by simp [hplain]), if_neg fun hentry => hvariant hentry.1 hentry.2]
  exact pruneBelow_eq_self h

theorem canonical_of_pruneBelow (trail : KeyPath) :
    ∀ leaf ∈ (t.pruneBelow keys separator trail).tree.leavesBelow trail,
      KeyPath.join separator leaf.1 ∈ keys.paths := by
  induction t generalizing trail with
  | nil => simp [pruneBelow, leavesBelow]
  | leaf key value rest ih =>
    rw [pruneBelow]
    split_ifs with hpath
    · rw [leavesBelow, List.forall_mem_cons]
      exact ⟨hpath, ih trail⟩
    · exact ih trail
  | branch key children rest ihc ihr =>
    simp only [pruneBelow]
    split_ifs
    · exact ihr trail
    · rw [leavesBelow, List.forall_mem_append]
      exact ⟨ihc _, ihr trail⟩

theorem canonical_of_pruned? (h : node.pruned? keys separator [key] = some kept) :
    ∀ leaf ∈ (cons key kept .nil).leaves, KeyPath.join separator leaf.1 ∈ keys.paths := by
  have htree : ((cons key node .nil).pruneBelow keys separator []).tree = cons key kept .nil := by
    apply entries_injective
    rw [entries_pruneBelow, entries_cons, entries_cons, keepEntries_cons]
    simp [KeyPath.child, h, entries, keepEntries]
  rw [leaves, ← htree]
  exact canonical_of_pruneBelow []

theorem kind_of_pruned? {path : KeyPath} (h : node.pruned? keys separator path = some kept) :
    kept.kind = node.kind := by
  cases node with
  | leaf value =>
    rw [Node.pruned?] at h
    split_ifs at h
    cases h
    rfl
  | subtree children =>
    obtain ⟨inner, rfl, -⟩ := trimmed_pruned? h
    rfl

theorem mem_entries_of_prune (ht : t.WellFormed)
    (h : (key, kept) ∈ (t.prune keys separator).tree.entries) :
    ∃ node, t.find? key = some node ∧
      node.prunedTop? keys separator (t.joinedBases separator) key = some kept := by
  have hkept := (trimmed_prune ht keys separator).wellFormed ht
  have hfind := (mem_entries_iff hkept.nodup_keys).mp h
  rw [find?_prune ht] at hfind
  exact Option.bind_eq_some_iff.mp hfind

/-- Fewer joined keys are left, so no more plain ones have variants beside them. -/
theorem hasVariant_of_prune (ht : t.WellFormed)
    (h : HasVariant separator (t.prune keys separator).tree.keys key) :
    HasVariant separator t.keys key := by
  obtain ⟨other, hmem, hvariant⟩ := h
  have hkeys := (trimmed_prune ht keys separator).keys_sublist
  exact ⟨other, hkeys.subset hmem, hvariant⟩

theorem prune_prune (ht : t.WellFormed) (keys : CanonicalKeys) (separator : String) :
    (t.prune keys separator).tree.prune keys separator = ⟨(t.prune keys separator).tree, []⟩ := by
  apply prune_eq_self ((trimmed_prune ht keys separator).wellFormed ht)
  intro key kept hmem
  obtain ⟨node, -, hkept⟩ := mem_entries_of_prune ht hmem
  rw [Node.prunedTop?] at hkept
  split_ifs at hkept with hjoined hbase hvariant
  · rw [pruneEntry, if_pos hjoined, if_pos hbase]
  · refine pruneEntry_of_plain _ (by simpa using hjoined) ?_ (canonical_of_pruned? hkept)
    intro hkind hmem
    have hbefore := hasVariant_of_prune ht (mem_joinedBases_iff.mp hmem)
    exact hvariant ⟨(kind_of_pruned? hkept).symm.trans hkind, mem_joinedBases_iff.mpr hbefore⟩

theorem parse_render_of_trimmed {s : Tree} {content : String} (h : parse content = .ok t)
    (hs : s.Trimmed t) : parse s.render = .ok s := by
  obtain ⟨ht, hunamb, hnesting⟩ := decoded_of_parse h
  have hplain := hs.unambiguous hunamb
  exact (parse_render (hs.wellFormed ht)).mpr
    ⟨Nat.le_trans hs.nesting_le hnesting, hplain.legible, reread_eq_self_iff.mpr hplain⟩

theorem leaves_entry_subset (h : (key, node) ∈ t.entries) :
    (cons key node .nil).leaves ⊆ t.leaves := by
  intro leaf hleaf
  rw [leaves_eq_flatMap, List.mem_flatMap]
  exact ⟨(key, node), h, hleaf⟩

theorem prune_canonical {canonical : Tree} (ht : canonical.WellFormed)
    (hplain : ∀ key ∈ canonical.keys, isJoined separator key = false) :
    canonical.prune (.ofTree separator canonical) separator = ⟨canonical, []⟩ := by
  have hnested : canonical.isFlat separator = false :=
    isFlat_eq_false_iff.mpr fun entry hentry => hplain entry.1 (List.mem_map_of_mem hentry)
  apply prune_eq_self ht
  intro key node hmem
  refine pruneEntry_of_plain _ (isFlat_eq_false_iff.mp hnested _ hmem) ?_ ?_
  · rintro - hbase
    obtain ⟨other, hother, hjoined, -⟩ := mem_joinedBases_iff.mp hbase
    rw [hplain other hother] at hjoined
    cases hjoined
  · intro leaf hleaf
    rw [CanonicalKeys.ofTree, expandFlat_of_nested hnested]
    exact List.mem_map_of_mem (leaves_entry_subset hmem hleaf)

/-- What pruning leaves of a locale file is written so that it is read back as it is, and has
nothing more to lose. A nested canonical tree has nothing to lose at all. -/
theorem prune_settles :
    (∀ (canonical locale : Tree) (separator content : String), parse content = .ok locale →
      let keys := CanonicalKeys.ofTree separator canonical
      let kept := (locale.prune keys separator).tree
      parse kept.render = .ok kept ∧ kept.prune keys separator = ⟨kept, []⟩) ∧
    ∀ (canonical : Tree) (separator : String), canonical.WellFormed →
      (∀ key ∈ canonical.keys, isJoined separator key = false) →
      canonical.prune (.ofTree separator canonical) separator = ⟨canonical, []⟩ := by
  constructor
  · intro canonical locale separator content hread keys kept
    obtain ⟨ht, -⟩ := decoded_of_parse hread
    exact ⟨parse_render_of_trimmed hread (trimmed_prune ht keys separator),
      prune_prune ht keys separator⟩
  · intro canonical separator ht hplain
    exact prune_canonical ht hplain

/-- A file from which a joined key goes together with the plain text beside it. -/
theorem superseded_text_settles :
    let canonical : Tree := .branch "room" (.leaf "title" (.text "t") .nil) .nil
    let locale : Tree := .leaf "files" (.text "a") (.leaf "files|one" (.text "b")
      (.branch "room" (.leaf "title" (.text "c") (.leaf "topic" (.text "d") .nil)) .nil))
    let keys := CanonicalKeys.ofTree "|" canonical
    let kept : Tree := .branch "room" (.leaf "title" (.text "c") .nil) .nil
    parse locale.render = .ok locale ∧
      locale.prune keys "|" = ⟨kept, ["files", "files|one", "room|topic"]⟩ ∧
      parse kept.render = .ok kept ∧ kept.prune keys "|" = ⟨kept, []⟩ ∧
      canonical.prune keys "|" = ⟨canonical, []⟩ := by
  intro canonical locale keys kept
  have hcanonical : canonical.WellFormed := by
    simp [canonical, Tree.WellFormed, Phrase.WellFormed]
  have hlocale : locale.WellFormed := by simp [locale, Tree.WellFormed, Phrase.WellFormed]
  have hplain : locale.Unambiguous := by simp [locale, Unambiguous, Plural.otherForm]
  have hread : parse locale.render = .ok locale :=
    (parse_render hlocale).mpr ⟨by decide, hplain.legible, reread_eq_self_iff.mpr hplain⟩
  have hpruned : locale.prune keys "|" = ⟨kept, ["files", "files|one", "room|topic"]⟩ := by
    decide +kernel
  have hsettled := prune_settles.1 canonical locale "|" _ hread
  simp only [show locale.prune (.ofTree "|" canonical) "|" = _ from hpruned] at hsettled
  exact ⟨hread, hpruned, hsettled.1, hsettled.2,
    prune_settles.2 canonical "|" hcanonical (by decide)⟩

end Phrasebook.Tree
