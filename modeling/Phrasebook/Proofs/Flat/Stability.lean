import Phrasebook.Proofs.Flat.Expansion

/-!
Expanding a tree that is expanded already. Joined keys that found no place come after the entry
that is in their way, so they are tried again against the same tree and stay where they are, as long
as nothing has made room for them since.
-/
namespace Phrasebook.Tree

open Expansion (Good Step)
open KeyPath (baseKey)

variable {separator key : String} {node : Node} {seen : List String}
  {entries : List (String × Node)}

/-- Every joined key comes after an entry of its base key that is no plain text. Such keys from
further up are in `seen`. -/
def Anchored (separator : String) : List String → List (String × Node) → Prop
  | _, [] => True
  | seen, (key, node) :: rest =>
    (isJoined separator key → baseKey separator key ∈ seen) ∧
      Anchored separator (if node.text? = none then key :: seen else seen) rest

namespace Anchored

theorem mono {more : List String} (hmore : seen ⊆ more) (h : Anchored separator seen entries) :
    Anchored separator more entries := by
  induction entries generalizing seen more with
  | nil => trivial
  | cons entry rest ih =>
    obtain ⟨hbase, hrest⟩ := h
    refine ⟨fun hjoined => hmore (hbase hjoined), ih ?_ hrest⟩
    split_ifs
    · exact List.cons_subset_cons _ hmore
    · exact hmore

theorem of_append {rest : List (String × Node)} (h : Anchored separator seen (entries ++ rest)) :
    Anchored separator seen entries := by
  induction entries generalizing seen with
  | nil => trivial
  | cons entry entries ih => exact ⟨h.1, ih h.2⟩

theorem append_singleton_iff :
    Anchored separator seen (entries ++ [(key, node)]) ↔
      Anchored separator seen entries ∧ (isJoined separator key →
        baseKey separator key ∈ seen ∨
          ∃ found, (baseKey separator key, found) ∈ entries ∧ found.text? = none) := by
  induction entries generalizing seen with
  | nil => simp [Anchored]
  | cons entry rest ih =>
    obtain ⟨k, first⟩ := entry
    rw [List.cons_append, Anchored, ih, Anchored, and_assoc]
    refine and_congr_right fun _ => and_congr_right fun _ => imp_congr_right fun _ => ?_
    by_cases hfirst : first.text? = none
    · rw [if_pos hfirst, List.mem_cons, or_assoc, or_left_comm]
      refine or_congr_right ?_
      constructor
      · rintro (heq | ⟨found, hmem, htext⟩)
        · exact ⟨first, by simp [heq], hfirst⟩
        · exact ⟨found, List.mem_cons_of_mem _ hmem, htext⟩
      · rintro ⟨found, hmem, htext⟩
        rcases List.mem_cons.mp hmem with heq | hmem
        · exact .inl (Prod.ext_iff.mp heq).1
        · exact .inr ⟨found, hmem, htext⟩
    · rw [if_neg hfirst]
      refine or_congr_right (exists_congr fun found => ?_)
      constructor
      · rintro ⟨hmem, htext⟩
        exact ⟨List.mem_cons_of_mem _ hmem, htext⟩
      · rintro ⟨hmem, htext⟩
        rcases List.mem_cons.mp hmem with heq | hmem
        · cases heq
          exact absurd htext hfirst
        · exact ⟨hmem, htext⟩

/-- A plain key may get a new value that is no text, or be added. -/
theorem put (hplain : isJoined separator key = false)
    (hnode : key ∈ entries.map Prod.fst → node.text? = none)
    (h : Anchored separator seen entries) :
    Anchored separator seen (Assoc.put key node entries) := by
  induction entries generalizing seen with
  | nil => exact ⟨by simp [hplain], trivial⟩
  | cons entry rest ih =>
    obtain ⟨k, first⟩ := entry
    obtain ⟨hbase, hrest⟩ := h
    rw [Assoc.put]
    split_ifs with hk
    · refine ⟨by simp [hplain], hrest.mono ?_⟩
      rw [if_pos (hnode (by simp [hk])), hk]
      split_ifs <;> simp
    · exact ⟨hbase, ih (fun hmem => hnode (List.mem_cons_of_mem _ hmem)) hrest⟩

/-- A plain text is in nobody's way. -/
theorem erase {text : String} (htext : entries.lookup key = some (.text text))
    (h : Anchored separator seen entries) :
    Anchored separator seen (entries.eraseP (·.1 = key)) := by
  induction entries generalizing seen with
  | nil => trivial
  | cons entry rest ih =>
    obtain ⟨k, first⟩ := entry
    obtain ⟨hbase, hrest⟩ := h
    rw [Assoc.lookup_cons_ite] at htext
    split_ifs at htext with hk
    · obtain rfl := Option.some.inj htext
      simpa [hk, Node.text, Node.text?] using hrest
    · rw [List.eraseP_cons_of_neg (by simpa using hk)]
      exact ⟨hbase, ih htext hrest⟩

theorem map (f : String → Node → Node) (hf : ∀ key node, (f key node).text? = node.text?)
    (h : Anchored separator seen entries) :
    Anchored separator seen (entries.map fun entry => (entry.1, f entry.1 entry.2)) := by
  induction entries generalizing seen with
  | nil => trivial
  | cons entry rest ih =>
    obtain ⟨hbase, hrest⟩ := h
    refine ⟨hbase, ?_⟩
    rw [hf]
    exact ih hrest

end Anchored

theorem text?_collapsed (node : Node) : node.collapsed.text? = node.text? := by
  cases node with
  | leaf value => rfl
  | subtree children =>
    rw [Node.collapsed]
    split <;> rfl

theorem text?_eq_none_iff {node : Node} : node.text? = none ↔ ∀ text, node ≠ .text text := by
  cases node with
  | leaf value => cases value <;> simp [Node.text?, Node.text]
  | subtree children => simp [Node.text?, Node.text]

theorem Anchored.place {t : Tree} (h : Anchored separator seen t.entries)
    (hjoined : isJoined separator key) (node : Node) :
    Anchored separator seen (t.place node (splitKey separator key)).entries := by
  obtain ⟨hplain, next, path, hsplit⟩ := splitKey_of_joined hjoined
  rw [hsplit, place_cons_cons, entries_put]
  exact h.put hplain fun _ => rfl

/-- Keys of entries that are still to come hold no leaf yet, and joined ones hold nothing. -/
theorem Anchored.step {e after : Expansion} (hgood : Good separator seen e) (hkey : key ∉ seen)
    (hstep : Step separator e key node after) (h : Anchored separator [] e.tree.entries) :
    Anchored separator [] after.tree.entries := by
  cases hstep with
  | superseded hplain hfind hnode => exact h
  | merged hplain hroom =>
    rw [entries_put]
    refine h.put hplain fun hmem => ?_
    obtain ⟨found, hfound⟩ := Option.isSome_iff_exists.mp (mem_keys_iff.mp hmem)
    obtain ⟨mine, children, rfl, rfl⟩ := hgood.exists_subtrees hkey hfound hroom
    simp [hfound, Node.mergeOnto, Node.text?]
  | exchanged hjoined hbase =>
    refine Anchored.place ?_ hjoined node
    rw [entries_erase]
    rw [find?_eq_lookup] at hbase
    exact h.erase hbase
  | placed hjoined hbase hfree => exact h.place hjoined node
  | verbatim hjoined hbase hblocked =>
    rw [entries_put_of_notMem (hgood.notMem_keys hkey hjoined), Anchored.append_singleton_iff]
    refine ⟨h, fun _ => .inr ?_⟩
    obtain ⟨-, next, path, hsplit⟩ := splitKey_of_joined hjoined
    cases hfind : e.tree.find? (baseKey separator key) with
    | none =>
      rw [hsplit, collision?_of_find?_none hfind] at hblocked
      cases hblocked
    | some found =>
      refine ⟨found, (mem_entries_iff hgood.wellFormed.nodup_keys).mpr hfind, ?_⟩
      rw [text?_eq_none_iff]
      rintro text rfl
      exact hbase text hfind

theorem Anchored.of_plain (h : ∀ entry ∈ entries, isJoined separator entry.1 = false) :
    Anchored separator seen entries := by
  induction entries generalizing seen with
  | nil => trivial
  | cons entry rest ih =>
    rw [List.forall_mem_cons] at h
    exact ⟨by simp [h.1], ih h.2⟩

/-- Every expanded tree is anchored. -/
theorem anchored_expandFlat {t : Tree} (ht : t.WellFormed) (separator : String) :
    Anchored separator [] (t.expandFlat separator).1.entries := by
  by_cases hflat : t.isFlat separator
  · obtain ⟨-, hanchored⟩ := expansion_induction ht separator
      (motive := fun _ e => Anchored separator [] e.tree.entries) trivial
      fun before key node rest e after hsplit hgood hstep h =>
        h.step hgood (key_notMem_of_split ht.nodup_keys hsplit) hstep
    rw [expandFlat_of_flat hflat, entries_collapseAt]
    refine hanchored.map (fun key node => if key ∈ _ then node.collapsed else node) ?_
    intro key node
    split_ifs
    · exact text?_collapsed node
    · rfl
  · rw [Bool.not_eq_true] at hflat
    rw [expandFlat_of_nested hflat]
    exact Anchored.of_plain (isFlat_eq_false_iff.mp hflat)

def Settled (separator : String) (t : Tree) : Prop :=
  ∀ entry ∈ t.entries, isJoined separator entry.1 →
    (t.collision? entry.2.kind (splitKey separator entry.1)).isSome

instance (separator : String) (t : Tree) : Decidable (t.Settled separator) :=
  inferInstanceAs (Decidable (∀ entry ∈ t.entries, isJoined separator entry.1 →
    (t.collision? entry.2.kind (splitKey separator entry.1)).isSome))

theorem collision?_congr {s t : Tree} (h : s.find? key = t.find? key) (kind : NodeKind)
    (path : KeyPath) : s.collision? kind (key :: path) = t.collision? kind (key :: path) := by
  cases path with
  | nil => simp [collision?, h]
  | cons k path => rw [collision?_cons_cons, collision?_cons_cons, h]

/-- How far the expansion of a tree that is anchored has come: it has copied the entries, or some
joined key was not in the way of anything and is gone. -/
def Copied (separator : String) (u : Tree) (before : List (String × Node)) (e : Expansion) : Prop :=
  (∃ s : Tree, e = ⟨s, [], []⟩ ∧ s.entries = before ∧
      ∀ entry ∈ before, isJoined separator entry.1 →
        (u.collision? entry.2.kind (splitKey separator entry.1)).isSome) ∨
    ∃ entry ∈ before, isJoined separator entry.1 ∧
      u.collision? entry.2.kind (splitKey separator entry.1) = none ∧
      e.tree.find? entry.1 = none

section Copying

variable {s u : Tree} {rest : List (String × Node)}

theorem find?_of_copied (hsplit : u.entries = s.entries ++ rest) {k : String}
    {found : Node} (hfind : s.find? k = some found) : u.find? k = some found := by
  rw [find?_eq_lookup] at hfind ⊢
  rw [hsplit, List.lookup_append, hfind]
  rfl

/-- When a joined key has its turn, the entry in its way has been copied. -/
theorem Anchored.exists_base (hs : s.keys.Nodup) (h : Anchored separator [] u.entries)
    (hsplit : u.entries = s.entries ++ (key, node) :: rest) (hjoined : isJoined separator key) :
    ∃ found, s.find? (baseKey separator key) = some found ∧ found.text? = none := by
  rw [hsplit, ← List.singleton_append, ← List.append_assoc] at h
  obtain ⟨-, hbase⟩ := append_singleton_iff.mp h.of_append
  obtain ⟨found, hmem, htext⟩ := (hbase hjoined).resolve_left (by simp)
  exact ⟨found, (mem_entries_iff hs).mp hmem, htext⟩

/-- The next entry is copied, which a joined one is only if it collides, or finds its place. -/
theorem copied_or_placed {after : Expansion} (hs : s.keys.Nodup) (hu : u.keys.Nodup)
    (hanchored : Anchored separator [] u.entries)
    (hsplit : u.entries = s.entries ++ (key, node) :: rest)
    (hstep : Step separator ⟨s, [], []⟩ key node after) :
    (after = ⟨s.put key node, [], []⟩ ∧ (isJoined separator key →
        (u.collision? node.kind (splitKey separator key)).isSome)) ∨
      isJoined separator key ∧ u.collision? node.kind (splitKey separator key) = none ∧
        after.tree.find? key = none := by
  have hfresh : s.find? key = none := find?_eq_none (key_notMem_of_split hu hsplit)
  have hcollision (hjoined : isJoined separator key) :
      s.collision? node.kind (splitKey separator key) =
        u.collision? node.kind (splitKey separator key) := by
    obtain ⟨found, hfind, -⟩ := hanchored.exists_base hs hsplit hjoined
    obtain ⟨-, next, path, hkey⟩ := splitKey_of_joined hjoined
    rw [hkey, collision?_congr (hfind.trans (find?_of_copied hsplit hfind).symm)]
  cases hstep with
  | superseded hplain hfind hnode =>
    rw [hfresh] at hfind
    cases hfind
  | merged hplain hroom =>
    have hnode : node.mergeOnto (s.find? key) = node := by
      rw [hfresh]
      cases node <;> rfl
    exact .inl ⟨by rw [hnode], by simp [hplain]⟩
  | exchanged hjoined htext =>
    -- What is in the way of a joined key is no text.
    obtain ⟨found, hfind, hnone⟩ := hanchored.exists_base hs hsplit hjoined
    rw [htext] at hfind
    cases hfind
    cases hnone
  | placed hjoined htext hfree =>
    refine .inr ⟨hjoined, (hcollision hjoined).symm.trans hfree, ?_⟩
    have hne : key ≠ baseKey separator key := ne_baseKey_of_joined hjoined hjoined
    exact (Expansion.find?_place_joined hjoined hne node).trans hfresh
  | verbatim hjoined htext hblocked =>
    refine .inl ⟨rfl, fun _ => ?_⟩
    rw [← hcollision hjoined, hblocked]
    rfl

end Copying

theorem Copied.step {u : Tree} {before rest : List (String × Node)} {e after : Expansion}
    (hu : u.keys.Nodup) (hanchored : Anchored separator [] u.entries)
    (hsplit : u.entries = before ++ (key, node) :: rest)
    (hgood : Good separator (before.map Prod.fst) e) (hstep : Step separator e key node after)
    (h : Copied separator u before e) : Copied separator u (before ++ [(key, node)]) after := by
  have hnew := key_notMem_of_split hu hsplit
  rcases h with ⟨s, rfl, rfl, hblocked⟩ | ⟨entry, hentry, hjoined, hfree, hgone⟩
  · rcases copied_or_placed hgood.wellFormed.nodup_keys hu hanchored hsplit hstep with
      ⟨rfl, hkey⟩ | ⟨hjoined, hfree, hgone⟩
    · refine .inl ⟨s.put key node, rfl, entries_put_of_notMem hnew node, ?_⟩
      intro entry hentry
      rcases List.mem_append.mp hentry with hmem | hmem
      · exact hblocked entry hmem
      · rw [List.mem_singleton.mp hmem]
        exact hkey
    · exact .inr ⟨(key, node), by simp, hjoined, hfree, hgone⟩
  · refine .inr ⟨entry, by simp [hentry], hjoined, hfree, ?_⟩
    have hne : entry.1 ≠ key := fun heq => hnew (heq ▸ List.mem_map_of_mem hentry)
    rw [hstep.find?_joined hjoined hne, hgone]

theorem expandFlat_eq_self_iff {u : Tree} (hu : u.WellFormed)
    (hanchored : Anchored separator [] u.entries) :
    (u.expandFlat separator).1 = u ↔ u.Settled separator := by
  by_cases hflat : u.isFlat separator
  · obtain ⟨-, hcopied⟩ := expansion_induction hu separator
      (motive := Copied separator u) (.inl ⟨.nil, rfl, rfl, by simp⟩)
      fun before key node rest e after hsplit hgood hstep h =>
        h.step hu.nodup_keys hanchored hsplit hgood hstep
    rw [expandFlat_of_flat hflat]
    rcases hcopied with ⟨s, hs, hentries, hblocked⟩ | ⟨entry, hentry, hjoined, hfree, hgone⟩
    · rw [hs, entries_injective hentries, collapseAt_nil]
      exact iff_of_true rfl hblocked
    · refine iff_of_false (fun heq => ?_) fun hsettled => ?_
      · have hfind := (mem_entries_iff hu.nodup_keys).mp hentry
        rw [← heq, find?_collapseAt, hgone] at hfind
        cases hfind
      · have hsome := hsettled entry hentry hjoined
        rw [hfree] at hsome
        cases hsome
  · rw [Bool.not_eq_true] at hflat
    rw [expandFlat_of_nested hflat]
    refine iff_of_true rfl fun entry hentry hjoined => ?_
    rw [isFlat_eq_false_iff.mp hflat entry hentry] at hjoined
    cases hjoined

theorem WellFormed.expandFlat {t : Tree} (ht : t.WellFormed) (separator : String) :
    (t.expandFlat separator).1.WellFormed := by
  by_cases hflat : t.isFlat separator
  · obtain ⟨hgood, -⟩ := expansion_induction ht separator
      (motive := fun _ _ => True) trivial fun _ _ _ _ _ _ _ _ _ _ => trivial
    rw [expandFlat_of_flat hflat]
    exact hgood.wellFormed.collapseAt _
  · rw [Bool.not_eq_true] at hflat
    rwa [expandFlat_of_nested hflat]

/-- Expanding a tree a second time changes nothing exactly when no key that was left joined has
found a place since, as one does when the subtree in its way becomes a plural. -/
theorem expandFlat_repeats_iff {t : Tree} (ht : t.WellFormed) (separator : String) :
    ((t.expandFlat separator).1.expandFlat separator).1 = (t.expandFlat separator).1 ↔
      (t.expandFlat separator).1.Settled separator :=
  expandFlat_eq_self_iff (ht.expandFlat separator) (anchored_expandFlat ht separator)

/-- The subtree in the way of the text has no form `other`, so it stays a subtree. -/
theorem blocked_key_repeats :
    let t : Tree := .leaf "x|y|z" (.text "1") (.leaf "x|y" (.text "2") .nil)
    t.WellFormed ∧ ((t.expandFlat "|").1.expandFlat "|").1 = (t.expandFlat "|").1 := by
  intro t
  have ht : t.WellFormed := by simp [t, Tree.WellFormed, Phrase.WellFormed]
  exact ⟨ht, (expandFlat_repeats_iff ht "|").mpr (by decide)⟩

/-- The subtree in the way of a text becomes a plural, which the text then takes the place of. -/
theorem unblocked_key_does_not_repeat :
    ¬∀ (t : Tree) (separator : String), t.WellFormed →
      ((t.expandFlat separator).1.expandFlat separator).1 = (t.expandFlat separator).1 := by
  intro hall
  let t : Tree := .leaf "x|y|other" (.text "o") (.leaf "x|y" (.text "v") .nil)
  have ht : t.WellFormed := by simp [t, Tree.WellFormed, Phrase.WellFormed]
  exact absurd (hall t "|" ht) (by decide)

end Phrasebook.Tree
