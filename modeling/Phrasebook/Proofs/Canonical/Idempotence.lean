import Phrasebook.Proofs.Canonical.Scanning
import Phrasebook.Proofs.Canonical.SecondRun
import Phrasebook.Proofs.Tree.RoundTrip

/-!
Generating twice: when the file written by one run makes the next run write the same file again.
-/
namespace Phrasebook
namespace KeyTable

open KeyPath (Covered Passable)

variable {old t t' : Tree} {separator : String} {entry : String × Bool}
  {entries : List (String × Bool)}

/-- Of two positions on the way to a third, the one that does not lead to the other is behind it. -/
theorem behind_of_not_covers {d p q : KeyPath} (hd : d <+: q) (hp : p <+: q) (h : ¬p <+: d) :
    d <+: p ∧ d ≠ p := by
  have hcomparable := List.prefix_or_prefix_of_prefix hd hp
  exact ⟨hcomparable.resolve_right h, fun heq => h (heq ▸ List.prefix_rfl)⟩

section Agreement

variable (hold : old.Unambiguous) (h : build ⟨entries⟩ old separator = .ok t)
  (hpass : Passable t.reread (paths ⟨entries⟩ separator))
  (hseed : Reseeded old t.reread separator ⟨entries⟩)

include hold h hpass hseed

/-- A subtree of the old tree at the path of a key is written and read back as a subtree. -/
theorem exists_inner_reread {names : List String} (hentry : entry ∈ entries)
    (hnames : old.spot? (pathOf separator entry) = some (.inner names)) :
    ∃ kept, t.reread.spot? (pathOf separator entry) = some (.inner kept) := by
  have hcovered := covered_pathOf separator hentry
  obtain ⟨kept, hkept, hkind, -⟩ := exists_spot?_of_covered hnames h hcovered
  cases kept with
  | leaf value => cases hkind
  | inner kept =>
    rcases t.spot?_reread_cases (pathOf separator entry) with
      hsame | ⟨d, hd, hmistaken, record, hd'⟩
    · exact ⟨kept, by rw [hsame _ List.prefix_rfl, hkept]⟩
    · have hleaf : t.reread.IsLeaf d := Tree.isLeaf_iff.mpr ⟨_, hd'⟩
      by_cases hne : d = pathOf separator entry
      · rw [← hne] at hcovered
        exact absurd hmistaken (not_mistaken_of_covered hold h hpass hcovered hleaf)
      · -- The last key of this path would have been placed as a new one.
        have hsome : ∃ e ∈ entries, pathOf separator e = pathOf separator entry :=
          ⟨entry, hentry, rfl⟩
        obtain ⟨before, last, after, rfl, hlast, hafter⟩ := exists_last hsome
        rw [← hlast] at hnames hd hne hafter
        have hnode := hseed before last after rfl hafter d hleaf hd hne
        have hsubtree := kind_nodeOf_eq_subtree_iff.mpr ⟨names, hnames⟩
        rw [hnode, kind_seedOf] at hsubtree
        cases hsubtree

/-- The last key that covers a position shows there in the second run what it shows in the first, or
what the first run left there. -/
theorem spot?_nodeOf_reread {before after : List (String × Bool)} {rest : KeyPath}
    (hentries : entries = before ++ entry :: after)
    (hlast : ∀ later ∈ after, ¬pathOf separator later <+: pathOf separator entry ++ rest) :
    (nodeOf t.reread separator entry).spot? rest = (nodeOf old separator entry).spot? rest ∨
      (nodeOf t.reread separator entry).spot? rest = t.spot? (pathOf separator entry ++ rest) := by
  subst hentries
  have hpre : pathOf separator entry <+: pathOf separator entry ++ rest := ⟨rest, rfl⟩
  rcases t.spot?_reread_cases (pathOf separator entry ++ rest) with
    hsame | ⟨d, hd, hmistaken, record, hd'⟩
  · rcases spot?_nodeOf_cases t.reread separator entry with ⟨-, hspot⟩ | ⟨hunusable, hnode⟩
    · exact .inr (by rw [hspot, hsame _ List.prefix_rfl])
    · -- What the first run left at the path of the key is of no use, so both place a seed.
      have hpath := pathOf_ne_nil separator entry
      rw [Tree.resolves_iff hpath, hsame _ hpre, ← Tree.resolves_iff hpath] at hunusable
      have hself : ∀ later ∈ after, ¬pathOf separator later <+: pathOf separator entry :=
        fun later hlater hcovers => hlast later hlater (hcovers.trans hpre)
      exact .inl (by rw [hnode, nodeOf_eq_seedOf_of_last h hself hunusable])
  · have hleaf : t.reread.IsLeaf d := Tree.isLeaf_iff.mpr ⟨_, hd'⟩
    have hfree : ¬pathOf separator entry <+: d := fun hcovers =>
      not_mistaken_of_covered hold h hpass (covered_of_mem (by simp) hcovers) hleaf hmistaken
    obtain ⟨hbehind, hne⟩ := behind_of_not_covers hd hpre hfree
    have hsame : ∀ later ∈ after, pathOf separator later ≠ pathOf separator entry :=
      fun later hlater heq => hlast later hlater (heq ▸ hpre)
    refine .inl ?_
    rw [nodeOf_eq_seedOf (Tree.not_resolves_of_isLeaf hleaf hbehind hne),
      hseed before entry after rfl hsame d hleaf hbehind hne]

theorem spot?_second_build (h' : build ⟨entries⟩ t.reread separator = .ok t') (q : KeyPath) :
    t'.spot? q = t.spot? q := by
  by_cases hcovered : Covered (paths ⟨entries⟩ separator) q
  · obtain ⟨p, hp, hpre⟩ := hcovered
    obtain ⟨e, he, rfl⟩ := List.mem_map.mp hp
    have hsome : ∃ e ∈ entries, pathOf separator e <+: q := ⟨e, he, hpre⟩
    obtain ⟨before, last, after, hentries, ⟨rest, rfl⟩, hafter⟩ := exists_last hsome
    have hcases := spot?_nodeOf_reread hold h hpass hseed hentries hafter
    subst hentries
    rw [spot?_of_last h' hafter]
    rcases hcases with hsame | hleft
    · rw [hsame, spot?_of_last h hafter]
    · rw [hleft, spot?_of_last h hafter, Spot.growAll_growAll]
  · rw [spot?_of_not_covered h' hcovered, spot?_of_not_covered h hcovered]

theorem build_reread (hwf : old.WellFormed) (hread : t.reread.WellFormed) :
    build ⟨entries⟩ t.reread separator = .ok t := by
  obtain ⟨t', h', -⟩ := exists_second_build h hpass fun entry hentry names hnames =>
    exists_inner_reread hold h hpass hseed hentry hnames
  have heq : t' = t := (wellFormed_of_build hread h').ext (wellFormed_of_build hwf h)
    (spot?_second_build hold h hpass hseed h')
  rw [h', heq]

end Agreement

/-- Nodes that are written alike, one of them a seed and the other one with no `other` entry. -/
theorem eq_seedOf_of_toJson {node : Node} (hjson : (seedOf entry).toJson = node.toJson)
    (hother : ∀ names, node.spot = .inner names → Plural.otherForm ∉ names) :
    node = seedOf entry := by
  cases node with
  | leaf value =>
    obtain ⟨found, hfound⟩ := exists_seedOf_eq entry
    rw [hfound] at hjson ⊢
    rw [Phrase.toJson_injective hjson]
  | subtree children =>
    have hchildren := hother children.keys rfl
    rw [seedOf] at hjson
    split_ifs at hjson
    · have hkeys := congrArg (List.map Prod.fst) (Json.Value.object.inj hjson)
      rw [Tree.map_fst_members] at hkeys
      rw [← hkeys] at hchildren
      simp [Plural.seeded, Plural.ofForms] at hchildren
    · cases hjson

/-- If the keys above a path are all new in the second run, the last key of the path is alone there
in both runs. -/
theorem spot?_of_seeds {read : Tree} {before after : List (String × Bool)}
    (h : build ⟨before ++ entry :: after⟩ old separator = .ok t)
    (h' : build ⟨before ++ entry :: after⟩ read separator = .ok t')
    (hlast : ∀ later ∈ after, pathOf separator later ≠ pathOf separator entry)
    (hseed : ∀ e ∈ before ++ entry :: after, pathOf separator e <+: pathOf separator entry →
      nodeOf read separator e = seedOf e) :
    t.spot? (pathOf separator entry) = some (nodeOf old separator entry).spot ∧
      t'.spot? (pathOf separator entry) = some (seedOf entry).spot := by
  obtain ⟨s, placed, -, hplace, hrest⟩ := build_cons_iff.mp h'
  obtain ⟨value, hvalue⟩ := exists_seedOf_eq entry
  have hstart : placed.spot? (pathOf separator entry) = some (.leaf value) := by
    rw [(placed_of_placeKey hplace).spot?, KeyPath.meet_self, Spot.after,
      hseed entry (by simp) List.prefix_rfl, hvalue]
    rfl
  obtain ⟨hsecond, hapart⟩ := spot?_leaf_of_foldlM hrest hstart hlast fun e he hcovers => by
    rw [hseed e (by simp [he]) hcovers, kind_seedOf]
  have hnone : namesAt separator after (pathOf separator entry) = [] := by
    rw [namesAt, List.filterMap_eq_nil_iff]
    intro e he
    rw [hapart e he]
  have hfirst := spot?_pathOf_of_last h fun later hlater =>
    KeyPath.not_prefix_of_apart (hapart later hlater)
  rw [hnone, Spot.growAll_nil] at hfirst
  exact ⟨hfirst, by rw [hsecond, hvalue]; rfl⟩

/-- If two runs write the same file, the keys behind leaves were placed anew in the first run. -/
theorem reseeded_of_build (hold : old.Unambiguous) (h : build ⟨entries⟩ old separator = .ok t)
    (h' : build ⟨entries⟩ t.reread separator = .ok t') (hjson : t'.toJson = t.toJson) :
    Reseeded old t.reread separator ⟨entries⟩ := by
  intro before entry after hentries hlast q hleaf hpre hne
  change entries = before ++ entry :: after at hentries
  subst hentries
  have hpath := pathOf_ne_nil separator entry
  rcases nodeOf_cases old separator entry with ⟨node, hget, -, hnode⟩ | ⟨-, hnode⟩
  · have hfound := Tree.spot?_of_get? hget
    obtain ⟨kept, hkept, -⟩ :=
      exists_spot?_of_covered hfound h (covered_pathOf separator (by simp))
    -- The first run left the key in its place, so the leaf is a subtree that was mistaken.
    obtain ⟨names, hnames⟩ := Tree.exists_inner_above hpre hne hkept
    have hfree : ¬Covered (paths ⟨before ++ entry :: after⟩ separator) q := fun hcovered =>
      not_mistaken_of_covered hold h (passable_of_build h') hcovered hleaf
        (Tree.mistaken_of_isLeaf_reread hleaf hnames)
    obtain ⟨hfirst, hsecond⟩ := spot?_of_seeds h h' hlast fun e he hcovers => by
      obtain ⟨hbehind, hne⟩ := behind_of_not_covers hpre hcovers fun hcovered =>
        hfree (covered_of_mem he hcovered)
      exact nodeOf_eq_seedOf (Tree.not_resolves_of_isLeaf hleaf hbehind hne)
    obtain ⟨n, hn, hnspot⟩ := Tree.exists_get?_of_spot? hpath hfirst
    obtain ⟨n', hn', hnspot'⟩ := Tree.exists_get?_of_spot? hpath hsecond
    obtain ⟨value, hvalue⟩ := exists_seedOf_eq entry
    rw [hvalue] at hnspot'
    have hn'eq : n' = seedOf entry := by rw [hvalue, Node.eq_leaf_of_spot hnspot']
    have hneq : n = seedOf entry := by
      apply eq_seedOf_of_toJson (by rw [← hn'eq, Tree.toJson_eq_of_get? hjson hn' hn])
      intro names hinner hother
      rw [hnspot, hnode] at hinner
      exact hold.not_mistaken _ ⟨hpath, names, by rw [hfound, hinner], hother⟩
    rw [hneq, hvalue] at hnspot
    rw [hvalue, Node.eq_leaf_of_spot hnspot.symm]
  · exact hnode

end KeyTable

open KeyPath (Passable)

variable {old : Tree} {separator content : String} {scan : Scan} {g : Generated}

/-- A second run from what is read back succeeds with the same file exactly when no leaf stands in
the way of a key and the keys behind leaves were placed anew. -/
theorem exists_same_render_iff (hcontent : Tree.parse content = .ok old)
    (h : generate old scan separator = .ok g) (hread : Tree.parse g.tree.render = .ok g.tree.reread)
    (haccept : acceptScan g.tree.reread separator scan = .ok scan.extractions) :
    (∃ again, generate g.tree.reread scan separator = .ok again ∧
        again.tree.render = g.tree.render) ↔
      Passable g.tree.reread (scan.table.paths separator) ∧
        scan.table.Reseeded old g.tree.reread separator := by
  obtain ⟨hwf, hold, -⟩ := Tree.decoded_of_parse hcontent
  obtain ⟨hreadwf, -, -⟩ := Tree.decoded_of_parse hread
  obtain ⟨-, hbuild⟩ := exists_generate_iff.mp ⟨g, h, rfl⟩
  constructor
  · rintro ⟨again, hagain, hrender⟩
    obtain ⟨-, hbuild'⟩ := exists_generate_iff.mp ⟨again, hagain, rfl⟩
    have hjson := Tree.render_injective (KeyTable.wellFormed_of_build hreadwf hbuild')
      (KeyTable.wellFormed_of_build hwf hbuild) hrender
    exact ⟨KeyTable.passable_of_build hbuild',
      KeyTable.reseeded_of_build hold hbuild hbuild' hjson⟩
  · rintro ⟨hpass, hseed⟩
    have hbuild' := KeyTable.build_reread hold hbuild hpass hseed hwf hreadwf
    obtain ⟨again, hagain, htree⟩ := exists_generate_iff.mpr ⟨haccept, hbuild'⟩
    exact ⟨again, hagain, by rw [htree]⟩

/-- Whether the generated file is read back, and generating from it reports an invalid call or gives
the same file again. -/
def Generated.Repeats (g : Generated) (scan : Scan) (separator : String) : Prop :=
  ∃ read, Tree.parse g.tree.render = .ok read ∧
    ((∃ e, generate read scan separator = .error (.invalidCall e)) ∨
      ∃ again, generate read scan separator = .ok again ∧ again.tree.render = g.tree.render)

theorem parse_generated_iff {read : Tree} (hcontent : Tree.parse content = .ok old)
    (h : generate old scan separator = .ok g) :
    Tree.parse g.tree.render = .ok read ↔
      g.tree.nesting ≤ 127 ∧ g.tree.Legible ∧ g.tree.reread = read := by
  obtain ⟨hwf, -, -⟩ := Tree.decoded_of_parse hcontent
  obtain ⟨-, hbuild⟩ := exists_generate_iff.mp ⟨g, h, rfl⟩
  exact Tree.parse_render (KeyTable.wellFormed_of_build hwf hbuild)

theorem repeats_of_reseeded (hcontent : Tree.parse content = .ok old)
    (h : generate old scan separator = .ok g) (hnesting : g.tree.nesting ≤ 127)
    (hlegible : g.tree.Legible)
    (hagain : (∃ e, acceptScan g.tree.reread separator scan = .error (.invalidCall e)) ∨
      (Passable g.tree.reread (scan.table.paths separator) ∧
        scan.table.Reseeded old g.tree.reread separator)) : g.Repeats scan separator := by
  have hread := (parse_generated_iff hcontent h).mpr ⟨hnesting, hlegible, rfl⟩
  refine ⟨g.tree.reread, hread, ?_⟩
  obtain ⟨haccepted, -⟩ := exists_generate_iff.mp ⟨g, h, rfl⟩
  obtain ⟨hscan, -⟩ := acceptScan_eq_ok_iff.mp haccepted
  have haccept := acceptScan_map_ok g.tree.reread separator scan.extractions
  rw [← hscan] at haccept
  rcases haccept with hok | ⟨e, he⟩
  · rcases hagain with ⟨e, he⟩ | hgood
    · rw [hok] at he
      cases he
    · exact .inr ((exists_same_render_iff hcontent h hread hok).mpr hgood)
  · exact .inl ⟨e, generate_eq_invalidCall_iff.mpr he⟩

/-- Generating again from the file that was just generated is an invalid call or gives the same file
exactly when the file can be read back and either some call no longer fits, or no leaf that one key
puts back stands in the way of a later one and the keys behind leaves were placed anew. -/
theorem repeats_iff (hcontent : Tree.parse content = .ok old)
    (h : generate old scan separator = .ok g) :
    g.Repeats scan separator ↔
      g.tree.nesting ≤ 127 ∧ g.tree.Legible ∧
        ((∃ e, acceptScan g.tree.reread separator scan = .error (.invalidCall e)) ∨
          (Passable g.tree.reread (scan.table.paths separator) ∧
            scan.table.Reseeded old g.tree.reread separator)) := by
  constructor
  · rintro ⟨read, hread, hagain⟩
    obtain ⟨hnesting, hlegible, rfl⟩ := (parse_generated_iff hcontent h).mp hread
    refine ⟨hnesting, hlegible, ?_⟩
    rcases hagain with ⟨e, he⟩ | ⟨again, hok, hrender⟩
    · exact .inl ⟨e, generate_eq_invalidCall_iff.mp he⟩
    · obtain ⟨haccept, -⟩ := exists_generate_iff.mp ⟨again, hok, rfl⟩
      exact .inr ((exists_same_render_iff hcontent h hread haccept).mp ⟨again, hok, hrender⟩)
  · rintro ⟨hnesting, hlegible, hagain⟩
    exact repeats_of_reseeded hcontent h hnesting hlegible hagain

theorem passable_of_kept {read : Tree} {paths : List KeyPath}
    (h : ∀ p ∈ paths, (read.spot? p).isSome) : Passable read paths := by
  refine List.pairwise_of_forall_mem_list fun p _ later hlater q hleaf _ hpre => ?_
  by_contra hne
  have hsome := h later hlater
  rw [Tree.spot?_eq_none_of_isLeaf hleaf hpre hne] at hsome
  cases hsome

theorem reseeded_of_kept {read : Tree} {table : KeyTable}
    (h : ∀ p ∈ table.paths separator, (read.spot? p).isSome) :
    table.Reseeded old read separator := by
  intro before entry after hkeys _ q hleaf hpre hne
  have hsome := h (KeyTable.pathOf separator entry) (List.mem_map_of_mem (by simp [hkeys]))
  rw [Tree.spot?_eq_none_of_isLeaf hleaf hpre hne] at hsome
  cases hsome

/-- A generated tree that holds all of its keys, has no subtree that passes for a plural and is not
nested too deep is generated again from its own file. -/
theorem repeats_of_kept (hcontent : Tree.parse content = .ok old)
    (h : generate old scan separator = .ok g) (hnesting : g.tree.nesting ≤ 127)
    (hunambiguous : g.tree.Unambiguous)
    (hkept : ∀ p ∈ scan.table.paths separator, (g.tree.spot? p).isSome) :
    g.Repeats scan separator := by
  have hread := Tree.reread_eq_self_iff.mpr hunambiguous
  refine repeats_of_reseeded hcontent h hnesting hunambiguous.legible (.inr ?_)
  rw [hread]
  exact ⟨passable_of_kept hkept, reseeded_of_kept hkept⟩

/-- A translated key beside one that nothing refers to. -/
theorem translated_key_repeats :
    let content := "\x7b\"a\": \x7b\"b\": \"B\", \"c\": \"\"\x7d\x7d"
    let old : Tree := .branch "a" (.leaf "b" (.text "B") (.leaf "c" (.text "") .nil)) .nil
    let scan : Scan := [.ok (.declaring ["a|b"])]
    let g : Generated := ⟨.branch "a" (.leaf "b" (.text "B") .nil) .nil, [("src/a.ts", 1)], 1, []⟩
    Tree.parse content = .ok old ∧ generate old scan "|" = .ok g ∧ g.Repeats scan "|" := by
  intro content old scan g
  have hcontent : Tree.parse content = .ok old := by decide +kernel
  have hgenerate : generate old scan "|" = .ok g := by decide +kernel
  have hkept : ∀ p ∈ scan.table.paths "|", (g.tree.reread.spot? p).isSome := by decide +kernel
  refine ⟨hcontent, hgenerate, (repeats_iff hcontent hgenerate).mpr ⟨?_, ?_, .inr ⟨?_, ?_⟩⟩⟩
  · decide
  · simp [g, Tree.Legible, Plural.otherForm]
  · exact passable_of_kept hkept
  · exact reseeded_of_kept hkept

/-- A key below a name `other` makes a file that cannot be read. -/
theorem other_segment_does_not_repeat :
    ¬∀ (content : String) (old : Tree) (scan : Scan) (separator : String) (g : Generated),
      Tree.parse content = .ok old → generate old scan separator = .ok g →
        g.Repeats scan separator := by
  intro hall
  let tree : Tree := .branch "a" (.branch "other" (.leaf "x" (.text "a|other|x") .nil) .nil) .nil
  have hgenerate : generate .nil [.ok (.declaring ["a|other|x"])] "|" =
      .ok ⟨tree, [("src/a.ts", 1)], 1, []⟩ := by decide
  have hempty : Tree.parse "\x7b\x7d\n" = .ok .nil := by decide
  obtain ⟨read, hread, -⟩ := hall _ _ _ "|" _ hempty hgenerate
  obtain ⟨-, hlegible, -⟩ := (parse_generated_iff hempty hgenerate).mp hread
  simp [tree, Tree.Legible, Tree.TextsOnly, Plural.otherForm] at hlegible

end Phrasebook
