import Mathlib.Data.List.Nodup
import Phrasebook.Proofs.Flat.Retention

/-!
Trees of a single level, all of whose entries are texts. Whichever comes first, a plain key gives
way to the joined keys that hold variants of it, and every other key keeps its text.
-/
namespace Phrasebook.Tree

open Expansion (Good Step Keeps)
open KeyPath (baseKey)

variable {separator key : String} {node : Node} {t : Tree} {before : List (String × Node)}
  {e after : Expansion}

theorem textsOnly_iff : t.TextsOnly ↔ ∀ entry ∈ t.entries, ∃ text, entry.2 = .text text := by
  induction t with
  | nil => simp [TextsOnly, entries]
  | leaf key value rest ih =>
    cases value with
    | text value => simp [TextsOnly, entries, ih, Node.text]
    | plural record => simp [TextsOnly, entries, Node.text]
  | branch key children rest => simp [TextsOnly, entries, Node.text]

theorem TextsOnly.wellFormed (h : t.TextsOnly) (hkeys : t.keys.Nodup) : t.WellFormed := by
  induction t with
  | nil => trivial
  | leaf key value rest ih =>
    cases value with
    | text value =>
      obtain ⟨hfresh, hrest⟩ := List.nodup_cons.mp hkeys
      exact ⟨hfresh, trivial, ih h hrest⟩
    | plural record => cases h
  | branch key children rest => cases h

theorem find?_text_iff {value : String} :
    t.find? key = some (.text value) ↔ t.spot? [key] = some (.leaf (.text value)) := by
  rw [spot?_cons]
  cases t.find? key with
  | none => simp
  | some node => cases node <;> simp [Node.text, Node.spot?]

/-- How far the plain keys among the entries before have been told apart: those with variants hold
what joined keys were placed in, and are superseded if they had an entry of their own; the others
hold their own texts. -/
structure Expansion.Sifted (separator : String) (before : List (String × Node)) (e : Expansion) :
    Prop where
  variants (key : String) : HasVariant separator (before.map Prod.fst) key →
    ∃ children, e.tree.find? key = some (.subtree children)
  plain (key : String) : isJoined separator key = false →
    ¬HasVariant separator (before.map Prod.fst) key → e.tree.find? key = before.lookup key
  claimed (key : String) (children : Tree) :
    e.tree.find? key = some (.subtree children) → key ∈ e.bases
  superseded (key : String) : key ∈ e.superseded ↔
    key ∈ before.map Prod.fst ∧ HasVariant separator (before.map Prod.fst) key
  once : e.superseded.Nodup

open Expansion (Sifted)

theorem lookup_eq_none_of_notMem (h : key ∉ before.map Prod.fst) : before.lookup key = none := by
  rwa [← Option.not_isSome_iff_eq_none, Assoc.lookup_isSome_iff]

theorem lookup_append_singleton_of_ne {k : String} (h : key ≠ k) (node : Node) :
    (before ++ [(key, node)]).lookup k = before.lookup k := by
  rw [List.lookup_append, Assoc.lookup_cons_ite, if_neg h, List.lookup_nil, Option.or_none]

/-- Before its own entry comes, a plain key has variants exactly if it holds a subtree. -/
theorem Expansion.Sifted.hasVariant_iff (h : Sifted separator before e)
    (hplain : isJoined separator key = false) (hkey : key ∉ before.map Prod.fst) :
    HasVariant separator (before.map Prod.fst) key ↔
      ∃ children, e.tree.find? key = some (.subtree children) := by
  constructor
  · exact h.variants key
  · rintro ⟨children, hfind⟩
    by_contra hnone
    rw [h.plain key hplain hnone, lookup_eq_none_of_notMem hkey] at hfind
    cases hfind

/-- A base key that holds no text has no entry of its own, or other variants already. -/
theorem Expansion.Sifted.lookup_base (h : Sifted separator before e)
    (htexts : ∀ entry ∈ before, ∃ text, entry.2 = .text text) {base : String}
    (hplain : isJoined separator base = false)
    (hbase : ∀ text, e.tree.find? base ≠ some (.text text))
    (hnone : ¬HasVariant separator (before.map Prod.fst) base) :
    e.tree.find? base = none ∧ base ∉ before.map Prod.fst := by
  have hfind := h.plain base hplain hnone
  cases hlookup : before.lookup base with
  | none =>
    refine ⟨hfind.trans hlookup, fun hmem => ?_⟩
    rw [← Assoc.lookup_isSome_iff, hlookup] at hmem
    cases hmem
  | some found =>
    obtain ⟨text, rfl⟩ := htexts (base, found) (Assoc.mem_of_lookup hlookup)
    exact absurd (hfind.trans hlookup) (hbase text)

theorem Expansion.Sifted.mem_superseded (h : Sifted separator before e)
    (htexts : ∀ entry ∈ before, ∃ text, entry.2 = .text text) {base : String}
    (hplain : isJoined separator base = false)
    (hbase : ∀ text, e.tree.find? base ≠ some (.text text)) (hmem : base ∈ before.map Prod.fst) :
    base ∈ e.superseded := by
  by_contra hnot
  have hnone : ¬HasVariant separator (before.map Prod.fst) base :=
    fun hvar => hnot ((h.superseded base).mpr ⟨hmem, hvar⟩)
  exact (h.lookup_base htexts hplain hbase hnone).2 hmem

/-- A base key that holds no text is superseded already if it has come at all. -/
theorem Expansion.Sifted.superseded_or_base_iff (h : Sifted separator before e)
    (htexts : ∀ entry ∈ before, ∃ text, entry.2 = .text text) {base : String}
    (hplain : isJoined separator base = false)
    (hbase : ∀ text, e.tree.find? base ≠ some (.text text)) (k : String) :
    k ∈ e.superseded ↔ k ∈ e.superseded ∨ k = base ∧ k ∈ before.map Prod.fst := by
  refine (or_iff_left_of_imp ?_).symm
  rintro ⟨rfl, hmem⟩
  exact h.mem_superseded htexts hplain hbase hmem

/-- Where only a base key changes, every subtree is that of a base key. -/
theorem Expansion.Sifted.claimed_cons (h : Sifted separator before e) {base : String} {s : Tree}
    (hrest : ∀ k, k ≠ base → s.find? k = e.tree.find? k) (k : String) (children : Tree)
    (hfind : s.find? k = some (.subtree children)) : k ∈ base :: e.bases := by
  by_cases hk : k = base
  · exact List.mem_cons.mpr (.inl hk)
  · exact List.mem_cons_of_mem _ (h.claimed k children (hrest k hk ▸ hfind))

/-- An entry with a plain key gives no key variants. -/
theorem hasVariant_of_plain (hplain : isJoined separator key = false) (node : Node) (k : String) :
    HasVariant separator ((before ++ [(key, node)]).map Prod.fst) k ↔
      HasVariant separator (before.map Prod.fst) k := by
  rw [List.map_append, List.map_singleton, hasVariant_append_singleton]
  simp [hplain]

theorem hasVariant_of_joined (hjoined : isJoined separator key) (node : Node) (k : String) :
    HasVariant separator ((before ++ [(key, node)]).map Prod.fst) k ↔
      HasVariant separator (before.map Prod.fst) k ∨ baseKey separator key = k := by
  rw [List.map_append, List.map_singleton, hasVariant_append_singleton]
  simp [hjoined]

/-- A plain text that no joined key has claimed is added, or gives way and is superseded. -/
theorem Expansion.Sifted.addPlain (h : Sifted separator before e)
    (hkey : key ∉ before.map Prod.fst) (hplain : isJoined separator key = false)
    (hnone : ¬HasVariant separator (before.map Prod.fst) key) (text : String) :
    Sifted separator (before ++ [(key, .text text)])
      { e with tree := e.tree.put key (.text text) } := by
  constructor
  · intro k hk
    rw [hasVariant_of_plain hplain] at hk
    have hne : key ≠ k := fun heq => hnone (heq ▸ hk)
    rw [find?_put_of_ne hne]
    exact h.variants k hk
  · intro k hk hnot
    rw [hasVariant_of_plain hplain] at hnot
    by_cases heq : key = k
    · subst heq
      rw [find?_put_self, List.lookup_append, lookup_eq_none_of_notMem hkey]
      simp
    · rw [find?_put_of_ne heq, lookup_append_singleton_of_ne heq]
      exact h.plain k hk hnot
  · intro k children hfind
    have hne : key ≠ k := by
      rintro rfl
      rw [find?_put_self] at hfind
      cases hfind
    rw [find?_put_of_ne hne] at hfind
    exact h.claimed k children hfind
  · intro k
    rw [hasVariant_of_plain hplain, h.superseded, List.map_append, List.mem_append]
    constructor
    · rintro ⟨hmem, hk⟩
      exact ⟨.inl hmem, hk⟩
    · rintro ⟨hmem | hmem, hk⟩
      · exact ⟨hmem, hk⟩
      · rw [List.mem_singleton.mp hmem] at hk
        exact absurd hk hnone
  · exact h.once

theorem Expansion.Sifted.dropPlain (h : Sifted separator before e)
    (hkey : key ∉ before.map Prod.fst) (hplain : isJoined separator key = false)
    (hvar : HasVariant separator (before.map Prod.fst) key) (node : Node) :
    Sifted separator (before ++ [(key, node)])
      { e with superseded := e.superseded ++ [key] } := by
  constructor
  · intro k hk
    exact h.variants k ((hasVariant_of_plain hplain node k).mp hk)
  · intro k hk hnot
    rw [hasVariant_of_plain hplain] at hnot
    have hne : key ≠ k := fun heq => hnot (heq ▸ hvar)
    rw [lookup_append_singleton_of_ne hne]
    exact h.plain k hk hnot
  · exact h.claimed
  · intro k
    rw [hasVariant_of_plain hplain, List.mem_append, h.superseded, List.map_append,
      List.mem_append, List.map_singleton, List.mem_singleton]
    constructor
    · rintro (⟨hmem, hk⟩ | rfl)
      · exact ⟨.inl hmem, hk⟩
      · exact ⟨.inr rfl, hvar⟩
    · rintro ⟨hmem | rfl, hk⟩
      · exact .inl ⟨hmem, hk⟩
      · exact .inr rfl
  · have hnot : key ∉ e.superseded := fun hmem => hkey ((h.superseded key).mp hmem).1
    exact List.concat_eq_append ▸ List.Nodup.concat hnot h.once

/-- A joined key makes its base key one with variants. -/
theorem Expansion.Sifted.addVariant (h : Sifted separator before e)
    (hjoined : isJoined separator key) (node : Node)
    (hbase : ∃ children, after.tree.find? (baseKey separator key) = some (.subtree children))
    (hrest : ∀ k, isJoined separator k = false → k ≠ baseKey separator key →
      after.tree.find? k = e.tree.find? k)
    (hclaimed : ∀ k children, after.tree.find? k = some (.subtree children) → k ∈ after.bases)
    (hsuperseded : ∀ k, k ∈ after.superseded ↔
      k ∈ e.superseded ∨ k = baseKey separator key ∧ k ∈ before.map Prod.fst)
    (honce : after.superseded.Nodup) : Sifted separator (before ++ [(key, node)]) after := by
  constructor
  · intro k hk
    by_cases heq : k = baseKey separator key
    · rw [heq]
      exact hbase
    · have hbefore := ((hasVariant_of_joined hjoined node k).mp hk).resolve_right (Ne.symm heq)
      rw [hrest k hbefore.plain heq]
      exact h.variants k hbefore
  · intro k hk hnot
    rw [hasVariant_of_joined hjoined, not_or] at hnot
    rw [hrest k hk (Ne.symm hnot.2), lookup_append_singleton_of_ne (ne_of_joined hjoined hk)]
    exact h.plain k hk hnot.1
  · exact hclaimed
  · intro k
    rw [hasVariant_of_joined hjoined, hsuperseded, h.superseded, List.map_append, List.mem_append]
    constructor
    · rintro (⟨hmem, hk⟩ | ⟨heq, hmem⟩)
      · exact ⟨.inl hmem, .inl hk⟩
      · exact ⟨.inl hmem, .inr heq.symm⟩
    · rintro ⟨hmem | hmem, hk⟩
      · exact hk.imp (fun hk => ⟨hmem, hk⟩) fun heq => ⟨heq.symm, hmem⟩
      · -- The joined key itself is nobody's base key.
        rw [List.mem_singleton.mp hmem] at hk
        rcases hk with hk | heq
        · exact absurd rfl (ne_of_joined hjoined hk.plain)
        · exact absurd heq.symm (ne_baseKey_of_joined hjoined hjoined)
  · exact honce

theorem exists_find?_place_joined (s : Tree) (hjoined : isJoined separator key) (node : Node) :
    ∃ children,
      (s.place node (splitKey separator key)).find? (baseKey separator key) =
        some (.subtree children) := by
  obtain ⟨-, next, path, hsplit⟩ := splitKey_of_joined hjoined
  rw [hsplit, find?_place_cons_cons, if_pos rfl]
  exact ⟨_, rfl⟩

theorem Expansion.Sifted.step (hkey : key ∉ before.map Prod.fst)
    (htexts : ∀ entry ∈ before, ∃ text, entry.2 = .text text) {text : String}
    (hstep : Step separator e key (.text text) after) (h : Sifted separator before e) :
    Sifted separator (before ++ [(key, .text text)]) after := by
  cases hstep with
  | superseded hplain hfind hnode =>
    exact h.dropPlain hkey hplain ((h.hasVariant_iff hplain hkey).mpr ⟨_, hfind⟩) _
  | merged hplain hroom =>
    refine h.addPlain hkey hplain ?_ text
    rw [h.hasVariant_iff hplain hkey]
    rintro ⟨children, hfind⟩
    exact hroom rfl children hfind
  | exchanged hjoined hbase =>
    obtain ⟨hplain, -⟩ := splitKey_of_joined hjoined
    have hnone : ¬HasVariant separator (before.map Prod.fst) (baseKey separator key) := by
      intro hvar
      obtain ⟨children, hfind⟩ := h.variants _ hvar
      rw [hbase] at hfind
      cases hfind
    have hmem : baseKey separator key ∈ before.map Prod.fst := by
      rw [h.plain _ hplain hnone] at hbase
      rw [← Assoc.lookup_isSome_iff, hbase]
      rfl
    have hrest (k : String) (hk : k ≠ baseKey separator key) :
        ((e.tree.erase (baseKey separator key)).place (.text text) (splitKey separator key)).find? k =
          e.tree.find? k := by
      rw [Expansion.find?_place_joined hjoined hk, find?_erase_of_ne (Ne.symm hk)]
    refine h.addVariant hjoined _ (exists_find?_place_joined _ hjoined _) (fun k _ => hrest k)
      (h.claimed_cons hrest) ?_ ?_
    · intro k
      rw [List.mem_append, List.mem_singleton]
      refine or_congr_right ⟨?_, And.left⟩
      rintro rfl
      exact ⟨rfl, hmem⟩
    · have hnot : baseKey separator key ∉ e.superseded :=
        fun hmem => hnone ((h.superseded _).mp hmem).2
      exact List.concat_eq_append ▸ List.Nodup.concat hnot h.once
  | placed hjoined hbase hfree =>
    obtain ⟨hplain, -⟩ := splitKey_of_joined hjoined
    have hrest (k : String) (hk : k ≠ baseKey separator key) :
        (e.tree.place (.text text) (splitKey separator key)).find? k = e.tree.find? k :=
      Expansion.find?_place_joined hjoined hk _
    exact h.addVariant hjoined _ (exists_find?_place_joined _ hjoined _) (fun k _ => hrest k)
      (h.claimed_cons hrest) (h.superseded_or_base_iff htexts hplain hbase) h.once
  | verbatim hjoined hbase hblocked =>
    obtain ⟨hplain, next, path, hsplit⟩ := splitKey_of_joined hjoined
    have hvar : HasVariant separator (before.map Prod.fst) (baseKey separator key) := by
      by_contra hnone
      have hfind := (h.lookup_base htexts hplain hbase hnone).1
      rw [hsplit, collision?_of_find?_none hfind] at hblocked
      cases hblocked
    refine h.addVariant hjoined _ ?_
      (fun k hk _ => find?_put_of_ne (ne_of_joined hjoined hk) _ _) ?_
      (h.superseded_or_base_iff htexts hplain hbase) h.once
    · obtain ⟨children, hfind⟩ := h.variants _ hvar
      exact ⟨children, (find?_put_of_ne (ne_of_joined hjoined hplain) _ _).trans hfind⟩
    · intro k children hfind
      have hk : key ≠ k := by
        rintro rfl
        rw [find?_put_self] at hfind
        cases hfind
      rw [find?_put_of_ne hk] at hfind
      exact h.claimed k children hfind

theorem Expansion.sifted_start (separator : String) : Sifted separator [] .start := by
  refine ⟨fun key h => ?_, fun key _ _ => rfl, fun key children h => ?_, by simp [start],
    List.nodup_nil⟩
  · obtain ⟨other, hmem, -⟩ := h
    cases hmem
  · cases h

theorem sifted_expansion (htexts : t.TextsOnly) (hkeys : t.keys.Nodup) (separator : String) :
    Good separator t.keys (t.expansion separator) ∧
      Sifted separator t.entries (t.expansion separator) := by
  have htext := textsOnly_iff.mp htexts
  refine expansion_induction (htexts.wellFormed hkeys) separator (Expansion.sifted_start separator) ?_
  intro before key node rest e after hsplit hgood hstep h
  obtain ⟨text, rfl⟩ := htext (key, node) (by simp [hsplit])
  refine h.step (key_notMem_of_split hkeys hsplit) (fun entry hentry => ?_) hstep
  exact htext entry (by simp [hsplit, hentry])

/-- Only joined keys bring subtrees, so collapsing at their base keys collapses everything. -/
theorem expandFlat_of_texts (htexts : t.TextsOnly) (hkeys : t.keys.Nodup)
    (hflat : t.isFlat separator) :
    t.expandFlat separator =
      ((t.expansion separator).tree.collapse, (t.expansion separator).superseded) := by
  obtain ⟨hgood, hsifted⟩ := sifted_expansion htexts hkeys separator
  have hcollapse := collapseAt_eq_collapse hgood.wellFormed.nodup_keys hsifted.claimed
  rw [expandFlat_of_flat hflat, hcollapse]

end Phrasebook.Tree
