import Phrasebook.Proofs.Flat.SingleLevel
import Phrasebook.Proofs.Tree.Leafy

/-!
Joined keys none of which leads through another one. Whatever the order of the entries, every text
that is not superseded is placed at the path of its key.
-/
namespace Phrasebook.Tree

open Expansion (Good Step Sifted)
open KeyPath (baseKey)

section Placing

variable {t : Tree} {path q : KeyPath} {value found : Phrase}

theorem spot?_place_leaf_iff (hpath : path ≠ []) (hfree : t.collision? .phrase path = none) :
    (t.place (.leaf value) path).spot? q = some (.leaf found) ↔
      q = path ∧ found = value ∨ q ≠ path ∧ t.spot? q = some (.leaf found) := by
  have hnode : t.collision? (Node.leaf value).kind path = none := hfree
  have hstored : (∃ rest, q = path ++ rest ∧ (Node.leaf value).spot? rest = some (.leaf found)) ↔
      q = path ∧ found = value := by
    simp [Node.spot?, @eq_comm _ found]
  rw [spot?_place_eq_leaf_iff hpath hnode, hstored]
  refine or_congr_right (and_congr_left fun hleaf => ⟨?_, ?_⟩)
  · rintro hpre rfl
    exact hpre List.prefix_rfl
  · -- No subtree may stand where the leaf goes.
    intro hne hpre
    obtain ⟨names, hinner⟩ := exists_inner_above hpre (Ne.symm hne) hleaf
    have hself := (collision?_eq_none_iff hpath).mp hfree path
    rw [KeyPath.meet_self] at hself
    cases hself _ hinner

theorem Leafy.place (h : t.Leafy) (ht : t.WellFormed) (hvalue : value.WellFormed) (hpath : path ≠ [])
    (hfree : t.collision? .phrase path = none) : (t.place (.leaf value) path).Leafy := by
  have hnode : (Node.leaf value).WellFormed := hvalue
  rw [leafy_iff_spot (ht.place hnode path)]
  rw [leafy_iff_spot ht] at h
  intro q names hq hinner
  have hkind : t.collision? (Node.leaf value).kind path = none := hfree
  rw [spot?_place hpath hkind] at hinner
  cases hmeet : path.meet q with
  | covers rest =>
    rw [hmeet] at hinner
    cases rest with
    | nil => cases hinner
    | cons next rest => cases hinner
  | leads next =>
    obtain ⟨rest, rfl⟩ := KeyPath.meet_eq_leads_iff.mp hmeet
    refine ⟨next :: rest, value, ?_⟩
    rw [spot?_place_leaf_iff hpath hfree]
    exact .inl ⟨rfl, rfl⟩
  | apart =>
    rw [hmeet] at hinner
    obtain ⟨rest, found, hfound⟩ := h q names hq hinner
    by_cases heq : q ++ rest = path
    · refine ⟨rest, value, ?_⟩
      rw [spot?_place_leaf_iff hpath hfree]
      exact .inl ⟨heq, rfl⟩
    · refine ⟨rest, found, ?_⟩
      rw [spot?_place_leaf_iff hpath hfree]
      exact .inr ⟨heq, hfound⟩

theorem Leafy.erase (h : t.Leafy) (key : String) : (t.erase key).Leafy := by
  induction t with
  | nil => trivial
  | leaf k found rest ih =>
    rw [Tree.erase]
    split_ifs
    · exact h
    · exact ih h
  | branch k children rest _ ih =>
    rw [Tree.erase]
    split_ifs
    · exact h.2.2
    · exact ⟨h.1, h.2.1, ih h.2.2⟩

end Placing

/-- Whether the path of no joined key leads through that of another one. -/
def PrefixFree (separator : String) (keys : List String) : Prop :=
  ∀ a ∈ keys, ∀ b ∈ keys, isJoined separator a → isJoined separator b →
    splitKey separator a <+: splitKey separator b → splitKey separator a = splitKey separator b

instance (separator : String) (keys : List String) : Decidable (PrefixFree separator keys) :=
  inferInstanceAs (Decidable (∀ a ∈ keys, ∀ b ∈ keys, isJoined separator a →
    isJoined separator b → splitKey separator a <+: splitKey separator b →
      splitKey separator a = splitKey separator b))

/-- Whether the leaves of a tree are those of the entries before, each at the path of its key, but
for the keys that are gone. -/
structure Spread (separator : String) (before : List (String × Node)) (gone : String → Prop)
    (s : Tree) : Prop where
  leafy : s.Leafy
  leaf_iff (q : KeyPath) (value : Phrase) : s.spot? q = some (.leaf value) ↔
    ∃ key, (key, .leaf value) ∈ before ∧ splitKey separator key = q ∧ ¬gone key

namespace Spread

variable {separator key base : String} {before : List (String × Node)} {gone : String → Prop}
  {s : Tree} {value : Phrase}

theorem congr {gone' : String → Prop} (h : Spread separator before gone s)
    (hgone : ∀ key ∈ before.map Prod.fst, gone' key ↔ gone key) :
    Spread separator before gone' s := by
  refine ⟨h.leafy, fun q value => ?_⟩
  rw [h.leaf_iff]
  refine exists_congr fun key => and_congr_right fun hmem => ?_
  rw [hgone key (List.mem_map_of_mem hmem)]

theorem drop (h : Spread separator before gone s) (hkey : gone key) (node : Node) :
    Spread separator (before ++ [(key, node)]) gone s := by
  refine ⟨h.leafy, fun q value => ?_⟩
  rw [h.leaf_iff]
  refine exists_congr fun k => ?_
  rw [List.mem_append, List.mem_singleton]
  constructor
  · rintro ⟨hmem, hk⟩
    exact ⟨.inl hmem, hk⟩
  · rintro ⟨hmem | heq, hk⟩
    · exact ⟨hmem, hk⟩
    · cases heq
      exact absurd hkey hk.2

theorem splitKey_ne_nil (separator key : String) : splitKey separator key ≠ [] := by
  cases hjoined : isJoined separator key with
  | false => simp [splitKey_of_plain hjoined]
  | true =>
    obtain ⟨-, next, path, hsplit⟩ := splitKey_of_joined hjoined
    simp [hsplit]

theorem place (h : Spread separator before gone s) (hs : s.WellFormed) (hvalue : value.WellFormed)
    (hkey : key ∉ before.map Prod.fst) (hgone : ¬gone key)
    (hfree : s.collision? .phrase (splitKey separator key) = none) :
    Spread separator (before ++ [(key, .leaf value)]) gone
      (s.place (.leaf value) (splitKey separator key)) := by
  have hpath := splitKey_ne_nil separator key
  refine ⟨h.leafy.place hs hvalue hpath hfree, fun q found => ?_⟩
  rw [spot?_place_leaf_iff hpath hfree, h.leaf_iff]
  simp only [List.mem_append, List.mem_singleton]
  constructor
  · rintro (⟨rfl, rfl⟩ | ⟨-, k, hmem, hk⟩)
    · exact ⟨key, .inr rfl, rfl, hgone⟩
    · exact ⟨k, .inl hmem, hk⟩
  · rintro ⟨k, hmem | heq, rfl, hk⟩
    · have hne : splitKey separator k ≠ splitKey separator key := by
        intro heq
        rw [splitKey_injective heq] at hmem
        exact hkey (List.mem_map_of_mem hmem)
      exact .inr ⟨hne, k, hmem, rfl, hk⟩
    · cases heq
      exact .inl ⟨rfl, rfl⟩

/-- When a plain text is erased, just its key is gone. -/
theorem erase (h : Spread separator before gone s) (hs : s.WellFormed)
    (hplain : isJoined separator base = false) {text : String}
    (htext : s.find? base = some (.text text)) :
    Spread separator before (fun key => gone key ∨ base = key) (s.erase base) := by
  refine ⟨h.leafy.erase base, fun q found => ?_⟩
  have hleaf {k : String} : splitKey separator k = [base] → k = base := by
    rw [← splitKey_of_plain hplain]
    exact splitKey_injective
  cases q with
  | nil =>
    refine iff_of_false (by simp) ?_
    rintro ⟨k, -, hk, -⟩
    exact splitKey_ne_nil separator k hk
  | cons next path =>
    by_cases hbase : base = next
    · subst hbase
      rw [spot?_cons, find?_erase_self hs]
      refine iff_of_false (by simp) ?_
      rintro ⟨k, hmem, hk, hgone⟩
      rw [not_or] at hgone
      have hspot := (h.leaf_iff (base :: path) found).mpr ⟨k, hmem, hk, hgone.1⟩
      rw [eq_nil_of_text htext hspot] at hk
      exact hgone.2 (hleaf hk).symm
    · have hsame : (s.erase base).spot? (next :: path) = s.spot? (next :: path) := by
        rw [spot?_cons, spot?_cons, find?_erase_of_ne hbase]
      rw [hsame, h.leaf_iff]
      refine exists_congr fun k => and_congr_right fun _ => and_congr_right fun hk => ?_
      have hne : base ≠ k := by
        rintro rfl
        rw [splitKey_of_plain hplain] at hk
        exact hbase (List.cons.inj hk).1
      simp [hne]

/-- No leaf is on the way of a joined key, and none is below its place. -/
theorem collision?_eq_none (h : Spread separator before gone s) (hs : s.WellFormed)
    (htexts : ∀ entry ∈ before, ∃ text, entry.2 = .text text) (hjoined : isJoined separator key)
    (hbase : ∀ text, s.find? (baseKey separator key) ≠ some (.text text))
    (habove : ∀ k ∈ before.map Prod.fst, isJoined separator k →
      splitKey separator k <+: splitKey separator key → splitKey separator k = splitKey separator key)
    (hbelow : ∀ k ∈ before.map Prod.fst, isJoined separator k →
      splitKey separator key <+: splitKey separator k →
        splitKey separator key = splitKey separator k) :
    s.collision? .phrase (splitKey separator key) = none := by
  obtain ⟨-, next, path, hsplit⟩ := splitKey_of_joined hjoined
  have hpath := splitKey_ne_nil separator key
  rw [collision?_eq_none_iff hpath]
  intro q
  cases hmeet : (splitKey separator key).meet q with
  | covers rest =>
    obtain rfl := KeyPath.meet_eq_covers_iff.mp hmeet
    cases rest with
    | cons k rest => trivial
    | nil =>
      rw [List.append_nil]
      intro spot hspot
      cases spot with
      | leaf found => rfl
      | inner names =>
        obtain ⟨rest, found, hfound⟩ := (leafy_iff_spot hs).mp h.leafy _ names hpath hspot
        obtain ⟨k, hmem, hk, -⟩ := (h.leaf_iff _ found).mp hfound
        have hjoinedk : isJoined separator k := by
          by_contra hplain
          rw [splitKey_of_plain (by simpa using hplain), hsplit] at hk
          simp at hk
        have heq := hbelow k (List.mem_map_of_mem hmem) hjoinedk ⟨rest, hk.symm⟩
        rw [← hk, ← heq, hspot] at hfound
        cases hfound
  | leads after =>
    obtain ⟨rest, hrest⟩ := KeyPath.meet_eq_leads_iff.mp hmeet
    intro found hspot
    obtain ⟨k, hmem, hk, -⟩ := (h.leaf_iff q found).mp hspot
    cases hjoinedk : isJoined separator k with
    | true =>
      have hpre : splitKey separator k <+: splitKey separator key := ⟨after :: rest, by rw [hk, hrest]⟩
      have heq := habove k (List.mem_map_of_mem hmem) hjoinedk hpre
      rw [← heq, hk] at hrest
      simp at hrest
    | false =>
      -- A plain key on the way is the base key, which holds no text.
      rw [splitKey_of_plain hjoinedk] at hk
      subst hk
      rw [hsplit] at hrest
      obtain ⟨hkey, -⟩ := List.cons.inj hrest
      obtain ⟨text, htext⟩ := htexts _ hmem
      cases htext
      rw [← hkey] at hspot
      exact hbase text (find?_text_iff.mpr hspot)
  | apart => trivial

theorem step {e after : Expansion} (hgood : Good separator (before.map Prod.fst) e)
    (hsifted : Sifted separator before e) (hkey : key ∉ before.map Prod.fst)
    (htexts : ∀ entry ∈ before, ∃ text, entry.2 = .text text)
    (hapart : PrefixFree separator (before.map Prod.fst ++ [key])) {text : String}
    (hstep : Step separator e key (.text text) after)
    (h : Spread separator before (HasVariant separator (before.map Prod.fst)) e.tree) :
    Spread separator (before ++ [(key, .text text)])
      (HasVariant separator ((before ++ [(key, Node.text text)]).map Prod.fst)) after.tree := by
  have hs := hgood.wellFormed
  have hvalue : (Phrase.text text).WellFormed := trivial
  have hself (hjoined : isJoined separator key) :
      ¬(HasVariant separator (before.map Prod.fst) key ∨ baseKey separator key = key) := by
    rintro (hvar | heq)
    · exact ne_of_joined hjoined hvar.plain rfl
    · exact ne_baseKey_of_joined hjoined hjoined heq.symm
  cases hstep with
  | superseded hplain hfind hnode =>
    have hvar := (hsifted.hasVariant_iff hplain hkey).mpr ⟨_, hfind⟩
    exact (h.drop hvar _).congr fun k _ => hasVariant_of_plain hplain _ k
  | merged hplain hroom =>
    have hnone : e.tree.find? key = none := by
      cases hfind : e.tree.find? key with
      | none => rfl
      | some found =>
        obtain ⟨mine, children, -, hnode⟩ := hgood.exists_subtrees hkey hfind hroom
        cases hnode
    have hnot : ¬HasVariant separator (before.map Prod.fst) key := by
      rw [hsifted.hasVariant_iff hplain hkey, hnone]
      simp
    have hpath := splitKey_of_plain hplain
    have hplaced := h.place hs hvalue hkey hnot (by rw [hpath, collision?_of_find?_none hnone])
    rw [hpath] at hplaced
    exact hplaced.congr fun k _ => hasVariant_of_plain hplain _ k
  | exchanged hjoined hbase =>
    obtain ⟨hplain, next, path, hsplit⟩ := splitKey_of_joined hjoined
    have hfree : (e.tree.erase (baseKey separator key)).collision? .phrase
        (splitKey separator key) = none := by
      rw [hsplit]
      exact collision?_of_find?_none (find?_erase_self hs _) _ _
    have herased := h.erase hs hplain hbase
    exact (herased.place (hs.erase _) hvalue hkey (hself hjoined) hfree).congr
      fun k _ => hasVariant_of_joined hjoined _ k
  | placed hjoined hbase hfree =>
    obtain ⟨hplain, -⟩ := splitKey_of_joined hjoined
    have hgone (k : String) (hk : k ∈ before.map Prod.fst) :
        (HasVariant separator (before.map Prod.fst) k ∨ baseKey separator key = k) ↔
          HasVariant separator (before.map Prod.fst) k := by
      apply or_iff_left_of_imp
      rintro rfl
      have hmem := hsifted.mem_superseded htexts hplain hbase hk
      exact ((hsifted.superseded _).mp hmem).2
    exact ((h.congr hgone).place hs hvalue hkey (hself hjoined) hfree).congr
      fun k _ => hasVariant_of_joined hjoined _ k
  | verbatim hjoined hbase hblocked =>
    have hlast : key ∈ before.map Prod.fst ++ [key] := by simp
    have hfree := h.collision?_eq_none hs htexts hjoined hbase
      (fun k hk hjoinedk => hapart k (List.mem_append_left _ hk) key hlast hjoinedk hjoined)
      (fun k hk hjoinedk => hapart key hlast k (List.mem_append_left _ hk) hjoined hjoinedk)
    have hkind : (Node.text text).kind = .phrase := rfl
    rw [hkind, hfree] at hblocked
    cases hblocked

end Spread

section Expanding

variable {separator : String} {t : Tree}

theorem PrefixFree.of_subset {keys more : List String} (h : PrefixFree separator more)
    (hsub : keys ⊆ more) : PrefixFree separator keys :=
  fun a ha b hb => h a (hsub ha) b (hsub hb)

theorem spread_expansion (htexts : t.TextsOnly) (hkeys : t.keys.Nodup)
    (hapart : PrefixFree separator t.keys) :
    Good separator t.keys (t.expansion separator) ∧
      Sifted separator t.entries (t.expansion separator) ∧
      Spread separator t.entries (HasVariant separator t.keys) (t.expansion separator).tree := by
  have htext := textsOnly_iff.mp htexts
  refine expansion_induction (htexts.wellFormed hkeys) separator
    (motive := fun before e => Sifted separator before e ∧
      Spread separator before (HasVariant separator (before.map Prod.fst)) e.tree)
    ⟨Expansion.sifted_start separator, trivial, fun q value => ?_⟩ ?_
  · cases q <;> simp [Expansion.start, spot?, find?]
  · rintro before key node rest e after hsplit hgood hstep ⟨hsifted, hspread⟩
    obtain ⟨text, rfl⟩ := htext (key, node) (by simp [hsplit])
    have hkey := key_notMem_of_split hkeys hsplit
    have hbefore (entry : String × Node) (hentry : entry ∈ before) :
        ∃ text, entry.2 = .text text := htext entry (by simp [hsplit, hentry])
    have hseen : before.map Prod.fst ++ [key] ⊆ t.keys := by
      have hall : t.keys = before.map Prod.fst ++ [key] ++ rest.map Prod.fst := by
        rw [keys, hsplit]
        simp
      rw [hall]
      exact List.subset_append_left _ _
    exact ⟨hsifted.step hkey hbefore hstep,
      hspread.step hgood hsifted hkey hbefore (hapart.of_subset hseen) hstep⟩

/-- No joined key is kept as it is. -/
theorem isJoined_eq_false_of_spread {gone : String → Prop} {entries : List (String × Node)}
    {seen : List String} {e : Expansion} (hgood : Good separator seen e)
    (hsifted : Sifted separator entries e) (hspread : Spread separator entries gone e.tree)
    {key : String} (hkey : key ∈ e.tree.keys) : isJoined separator key = false := by
  obtain ⟨node, hfind⟩ := Option.isSome_iff_exists.mp (mem_keys_iff.mp hkey)
  cases node with
  | leaf value =>
    have hspot : e.tree.spot? [key] = some (.leaf value) := by
      rw [spot?_cons, hfind]
      rfl
    obtain ⟨k, -, hk, -⟩ := (hspread.leaf_iff [key] value).mp hspot
    cases hjoined : isJoined separator k with
    | false =>
      rw [splitKey_of_plain hjoined] at hk
      rw [← (List.cons.inj hk).1, hjoined]
    | true =>
      obtain ⟨-, next, path, hsplit⟩ := splitKey_of_joined hjoined
      rw [hsplit] at hk
      simp at hk
  | subtree children => exact hgood.plainBases key (hsifted.claimed key children hfind)

end Expanding

end Phrasebook.Tree
