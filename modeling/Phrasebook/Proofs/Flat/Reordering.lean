import Phrasebook.Proofs.Flat.Spreading
import Phrasebook.Proofs.Tree.Alike

/-!
The order of the entries of a single-level tree. Where the path of no joined key leads through that
of another one, every key that is not superseded finds its place, so the expansion has the same
leaves whatever the order was.
-/
namespace Phrasebook.Tree

open Expansion (Good Step Sifted)
open KeyPath (baseKey)

section Alike

variable {s t : Tree} {key : String}

theorem textsOnly_iff_find? (ht : t.keys.Nodup) :
    t.TextsOnly ↔ ∀ key ∈ t.keys, ∃ value, t.find? key = some (.text value) := by
  rw [textsOnly_iff]
  constructor
  · intro htexts key hkey
    obtain ⟨⟨k, node⟩, hentry, rfl⟩ := List.mem_map.mp hkey
    obtain ⟨value, rfl⟩ := htexts _ hentry
    exact ⟨value, (mem_entries_iff ht).mp hentry⟩
  · rintro hall ⟨key, node⟩ hentry
    obtain ⟨value, hvalue⟩ := hall key (List.mem_map_of_mem hentry)
    rw [(mem_entries_iff ht).mp hentry] at hvalue
    exact ⟨value, Option.some.inj hvalue⟩

theorem Alike.plural?_isSome_iff (h : s.Alike t) (hs : s.keys.Nodup) (ht : t.keys.Nodup) :
    s.plural?.isSome ↔ t.plural?.isSome := by
  have hkeys := h.perm_keys
  rw [Tree.plural?_isSome_iff, Tree.plural?_isSome_iff, textsOnly_iff_find? hs,
    textsOnly_iff_find? ht, hkeys.mem_iff]
  simp only [find?_text_iff, h.spot?_text_iff, hkeys.mem_iff]

theorem mem_forms_iff {record : Plural} (ht : t.keys.Nodup) (h : t.plural? = some record)
    {name text : String} :
    (name, text) ∈ record.forms ↔ t.spot? [name] = some (.leaf (.text text)) := by
  obtain ⟨hforms, -⟩ := plural?_eq_some_iff.mp h
  have hnames : Assoc.Unique record.forms := by
    rw [Assoc.Unique, map_fst_of_textForms? hforms]
    exact ht
  rw [← find?_text_iff, find?_of_textForms? hforms, Assoc.mem_iff_lookup hnames]
  simp [Option.map_eq_some_iff, Node.text]

theorem Alike.perm_forms (h : s.Alike t) (hs : s.keys.Nodup) (ht : t.keys.Nodup)
    {mine other : Plural} (hmine : s.plural? = some mine) (hother : t.plural? = some other) :
    mine.forms.Perm other.forms := by
  have hnodup {u : Tree} {record : Plural} (hu : u.keys.Nodup) (hrecord : u.plural? = some record) :
      record.forms.Nodup := by
    obtain ⟨hforms, -⟩ := plural?_eq_some_iff.mp hrecord
    apply List.Nodup.of_map Prod.fst
    rw [map_fst_of_textForms? hforms]
    exact hu
  refine (List.perm_ext_iff_of_nodup (hnodup hs hmine) (hnodup ht hother)).mpr ?_
  rintro ⟨name, text⟩
  rw [mem_forms_iff hs hmine, mem_forms_iff ht hother, h.spot?_text_iff]

/-- Trees that are alike collapse to trees that are alike. -/
theorem Alike.collapse (h : s.Alike t) (hs : s.WellFormed) (ht : t.WellFormed) :
    s.collapse.Alike t.collapse := by
  intro path
  induction path generalizing s t with
  | nil =>
    rw [spot?_nil, spot?_nil, keys_collapse, keys_collapse]
    exact .some (.inner h.perm_keys)
  | cons key path ih =>
    rw [spot?_cons, spot?_cons, find?_collapse, find?_collapse]
    have hkey := h.find? key
    cases hmine : s.find? key with
    | none =>
      rw [hmine] at hkey
      generalize t.find? key = other at hkey ⊢
      cases hkey
      exact .none
    | some mine =>
      rw [hmine] at hkey
      generalize hother : t.find? key = found at hkey ⊢
      cases hkey with
      | @some _ other hnodes =>
        rw [Option.map_some, Option.map_some, Option.bind_some, Option.bind_some]
        rcases leaves_or_subtrees hnodes with ⟨a, b, rfl, rfl⟩ | ⟨a, b, rfl, rfl, hbelow⟩
        · exact hnodes path
        have ha : a.WellFormed := hs.find? hmine
        have hb : b.WellFormed := ht.find? hother
        have hsame := hbelow.plural?_isSome_iff ha.nodup_keys hb.nodup_keys
        cases hplural : a.plural? with
        | none =>
          rw [hplural] at hsame
          have hnone : b.plural? = none := by simpa using hsame
          rw [Node.collapsed, Node.collapsed, hplural, hnone]
          exact ih hbelow ha hb
        | some record =>
          rw [hplural] at hsame
          obtain ⟨found, hfound⟩ := Option.isSome_iff_exists.mp (hsame.mp rfl)
          rw [Node.collapsed, Node.collapsed, hplural, hfound]
          have hforms := hbelow.perm_forms ha.nodup_keys hb.nodup_keys hplural hfound
          cases path with
          | nil => exact .some (.plural hforms)
          | cons k path => exact .none

end Alike

section Orders

variable {separator : String} {s t : Tree}

theorem Expansion.Sifted.perm_superseded {a b : Expansion} (hs : Sifted separator s.entries a)
    (ht : Sifted separator t.entries b) (h : s.entries.Perm t.entries) :
    a.superseded.Perm b.superseded := by
  have hkeys := h.map Prod.fst
  refine (List.perm_ext_iff_of_nodup hs.once ht.once).mpr fun key => ?_
  rw [hs.superseded, ht.superseded, hkeys.mem_iff]
  simp only [HasVariant, hkeys.mem_iff]

theorem Spread.alike {a b : Expansion} (ha : a.tree.WellFormed) (hb : b.tree.WellFormed)
    (hs : Spread separator s.entries (HasVariant separator s.keys) a.tree)
    (ht : Spread separator t.entries (HasVariant separator t.keys) b.tree)
    (h : s.entries.Perm t.entries) : a.tree.Alike b.tree := by
  have hkeys : s.keys.Perm t.keys := h.map Prod.fst
  refine alike_of_leaves ha hb hs.leafy ht.leafy fun path value => ?_
  rw [hs.leaf_iff, ht.leaf_iff]
  simp only [h.mem_iff, HasVariant, hkeys.mem_iff]

/-- The order of the entries decides only the order of the result. -/
theorem expandFlat_perm (htexts : t.TextsOnly) (hkeys : t.keys.Nodup) (hflat : t.isFlat separator)
    (hapart : PrefixFree separator t.keys) (h : s.entries.Perm t.entries) :
    (s.expandFlat separator).2.Perm (t.expandFlat separator).2 ∧
      (s.expandFlat separator).1.Alike (t.expandFlat separator).1 := by
  have hperm : s.keys.Perm t.keys := h.map Prod.fst
  have hstexts : s.TextsOnly := by
    rw [textsOnly_iff] at htexts ⊢
    exact fun entry hentry => htexts entry (h.mem_iff.mp hentry)
  have hskeys : s.keys.Nodup := hperm.nodup_iff.mpr hkeys
  have hsflat : s.isFlat separator := by
    rw [isFlat, List.any_eq_true] at hflat ⊢
    simpa only [hperm.mem_iff] using hflat
  have hsapart : PrefixFree separator s.keys := hapart.of_subset hperm.subset
  obtain ⟨hgood, hsifted, hspread⟩ := spread_expansion htexts hkeys hapart
  obtain ⟨hsgood, hssifted, hsspread⟩ := spread_expansion hstexts hskeys hsapart
  rw [expandFlat_of_texts htexts hkeys hflat, expandFlat_of_texts hstexts hskeys hsflat]
  have halike := hsspread.alike hsgood.wellFormed hgood.wellFormed hspread h
  exact ⟨hssifted.perm_superseded hsifted h, halike.collapse hsgood.wellFormed hgood.wellFormed⟩

end Orders

section SingleLevel

variable {separator key text : String} {t : Tree}

theorem plain_of_single_level (htexts : t.TextsOnly) (hkeys : t.keys.Nodup)
    (hflat : t.isFlat separator) (hentry : (key, Node.text text) ∈ t.entries)
    (hplain : isJoined separator key = false) :
    if HasVariant separator t.keys key then
      (t.expandFlat separator).2.count key = 1 ∧
        ∀ found, (t.expandFlat separator).1.find? key ≠ some (.text found)
    else key ∉ (t.expandFlat separator).2 ∧
      (t.expandFlat separator).1.find? key = some (.text text) := by
  obtain ⟨-, hsifted⟩ := sifted_expansion htexts hkeys separator
  rw [expandFlat_of_texts htexts hkeys hflat]
  split_ifs with hvar
  · have hmem := (hsifted.superseded key).mpr ⟨List.mem_map_of_mem hentry, hvar⟩
    refine ⟨List.count_eq_one_of_mem hsifted.once hmem, fun found hfound => ?_⟩
    obtain ⟨children, hchildren⟩ := hsifted.variants key hvar
    rw [find?_collapse, hchildren, Option.map_some, Node.collapsed] at hfound
    split at hfound <;> cases hfound
  · refine ⟨fun hmem => hvar ((hsifted.superseded key).mp hmem).2, ?_⟩
    rw [find?_collapse, hsifted.plain key hplain hvar, (Assoc.mem_iff_lookup hkeys).mp hentry]
    rfl

theorem exists_eq_singleton (htexts : t.TextsOnly) (hkeys : t.keys.Nodup) {path : KeyPath}
    {value : Phrase} (h : t.spot? path = some (.leaf value)) : ∃ k, path = [k] := by
  cases path with
  | nil => cases h
  | cons k path =>
    obtain ⟨node, hnode, -⟩ := Option.bind_eq_some_iff.mp (spot?_cons t k path ▸ h)
    obtain ⟨found, rfl⟩ := textsOnly_iff.mp htexts (k, node) ((mem_entries_iff hkeys).mpr hnode)
    exact ⟨k, by rw [eq_nil_of_text hnode h]⟩

theorem joined_of_single_level (htexts : t.TextsOnly) (hkeys : t.keys.Nodup)
    (hflat : t.isFlat separator) (hentry : (key, Node.text text) ∈ t.entries)
    (hjoined : isJoined separator key) :
    (t.expandFlat separator).1.Holds (splitKey separator key) (.text text) ∨
      (t.expandFlat separator).1.find? key = some (.text text) := by
  have hspot : t.spot? [key] = some (.leaf (.text text)) :=
    find?_text_iff.mp ((mem_entries_iff hkeys).mp hentry)
  have hsole (path : KeyPath) (found : Phrase) (hfound : t.spot? path = some (.leaf found))
      (hpath : nestedPath separator path = nestedPath separator [key]) : path = [key] := by
    obtain ⟨k, rfl⟩ := exists_eq_singleton htexts hkeys hfound
    rw [nestedPath, nestedPath, List.append_nil, List.append_nil] at hpath
    rw [splitKey_injective hpath]
  have hroom : ¬Overlaid separator t key [] := by
    rintro ⟨⟨k, node⟩, hmem, hover⟩
    have hentries := (List.dropWhile_sublist _).subset (List.mem_of_mem_tail hmem)
    obtain ⟨found, hfound⟩ := textsOnly_iff.mp htexts (k, node) hentries
    cases hfound
    exact hover
  obtain ⟨-, hkeeps⟩ := keeps_expansion (htexts.wellFormed hkeys) hspot hsole hroom
  rw [expandFlat_of_texts htexts hkeys hflat]
  cases hkeeps with
  | nested h =>
    rw [nestedPath, List.append_nil] at h
    exact .inl (holds_collapse h)
  | verbatim _ h =>
    refine .inr ?_
    rw [find?_collapse, find?_text_iff.mpr h]
    rfl
  | superseded hplain hinner h => exact absurd rfl (ne_of_joined hjoined hplain)

/-- Every entry of a single-level file of texts is accounted for. A plain key with variants is
superseded once, any other keeps its text; the text of a joined key is found at its path, there as a
form, or under the key itself; and no subtree stands for a plural any more. Where no joined key
leads through another one, all of them find their places, in every order of the entries. -/
theorem expandFlat_single_level (hkeys : t.keys.Nodup) (htexts : t.TextsOnly)
    (hflat : t.isFlat separator) :
    (∀ key text, (key, Node.text text) ∈ t.entries → isJoined separator key = false →
      if HasVariant separator t.keys key then
        (t.expandFlat separator).2.count key = 1 ∧
          ∀ found, (t.expandFlat separator).1.find? key ≠ some (.text found)
      else key ∉ (t.expandFlat separator).2 ∧
        (t.expandFlat separator).1.find? key = some (.text text)) ∧
    (∀ key text, (key, Node.text text) ∈ t.entries → isJoined separator key →
      (t.expandFlat separator).1.Holds (splitKey separator key) (.text text) ∨
        (t.expandFlat separator).1.find? key = some (.text text)) ∧
    (∀ path children, (t.expandFlat separator).1.get? path = some (.subtree children) →
      ¬(children.TextsOnly ∧ Plural.otherForm ∈ children.keys)) ∧
    (PrefixFree separator t.keys →
      (∀ key ∈ (t.expandFlat separator).1.keys, isJoined separator key = false) ∧
      ∀ s : Tree, s.entries.Perm t.entries →
        (s.expandFlat separator).2.Perm (t.expandFlat separator).2 ∧
          (s.expandFlat separator).1.Alike (t.expandFlat separator).1) := by
  refine ⟨?_, ?_, ?_, fun hapart => ⟨?_, ?_⟩⟩
  · intro key text hentry hplain
    exact plain_of_single_level htexts hkeys hflat hentry hplain
  · intro key text hentry hjoined
    exact joined_of_single_level htexts hkeys hflat hentry hjoined
  · intro path children hget
    rw [expandFlat_of_texts htexts hkeys hflat] at hget
    exact not_plural_of_collapse hget
  · intro key hkey
    obtain ⟨hgood, hsifted, hspread⟩ := spread_expansion htexts hkeys hapart
    rw [expandFlat_of_texts htexts hkeys hflat, keys_collapse] at hkey
    exact isJoined_eq_false_of_spread hgood hsifted hspread hkey
  · intro s hperm
    exact expandFlat_perm htexts hkeys hflat hapart hperm

/-- A plain text gives way to its variants, whichever of them comes first. -/
theorem variants_supersede_in_any_order :
    let t : Tree := .leaf "files" (.text "Files") (.leaf "files|one" (.text "One file")
      (.leaf "rooms" (.text "Rooms") (.leaf "files|other" (.text "Many files") .nil)))
    let s : Tree := .leaf "files|other" (.text "Many files") (.leaf "rooms" (.text "Rooms")
      (.leaf "files|one" (.text "One file") (.leaf "files" (.text "Files") .nil)))
    t.keys.Nodup ∧ t.TextsOnly ∧ t.isFlat "|" ∧ PrefixFree "|" t.keys ∧
      s.entries.Perm t.entries ∧ (t.expandFlat "|").2.count "files" = 1 ∧
      (t.expandFlat "|").1.find? "rooms" = some (.text "Rooms") ∧
      ((t.expandFlat "|").1.Holds ["files", "other"] (.text "Many files") ∨
        (t.expandFlat "|").1.find? "files|other" = some (.text "Many files")) ∧
      (s.expandFlat "|").2.Perm (t.expandFlat "|").2 ∧
      (s.expandFlat "|").1.Alike (t.expandFlat "|").1 := by
  intro t s
  have hkeys : t.keys.Nodup := by decide
  have htexts : t.TextsOnly := by simp [t, TextsOnly]
  have hflat : t.isFlat "|" := by decide
  have hapart : PrefixFree "|" t.keys := by decide
  have hperm : s.entries.Perm t.entries := by decide
  obtain ⟨hplain, hjoined, -, horder⟩ := expandFlat_single_level hkeys htexts hflat
  have hfiles := hplain "files" "Files" (by decide) (by decide)
  have hrooms := hplain "rooms" "Rooms" (by decide) (by decide)
  rw [if_pos (by decide)] at hfiles
  rw [if_neg (by decide)] at hrooms
  have hother := hjoined "files|other" "Many files" (by decide) (by decide)
  obtain ⟨-, hany⟩ := horder hapart
  exact ⟨hkeys, htexts, hflat, hapart, hperm, hfiles.1, hrooms.2, hother, hany s hperm⟩

end SingleLevel

end Phrasebook.Tree
