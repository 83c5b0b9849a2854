import Phrasebook.Proofs.Canonical.Placement
import Phrasebook.Proofs.Canonical.Sightings

/-!
Which keys the canonical tree still holds after all of them are placed. A key whose path leads to a
subtree of the old tree puts all of it back, and what was seeded there before is gone.
-/
namespace Phrasebook

namespace KeyPath

theorem parse_empty (separator : String) : parse separator "" = [""] := by
  rw [parse, Text.splitOn]
  split_ifs <;> rfl

theorem eq_empty_of_parse {separator raw : String} (h : parse separator raw = [""]) : raw = "" := by
  rw [← parse_empty separator] at h
  exact String.toList_eq_nil_iff.mp (unescapeNewlines_eq_nil (unescapeNewlines_eq_of_parse h))

/-- Whether some path at or below a position comes after every path that leads to a proper ancestor
of it. -/
def Outlasts (paths : List KeyPath) (q : KeyPath) : Prop :=
  ∃ before p after, paths = before ++ p :: after ∧ q <+: p ∧
    ∀ later ∈ after, later <+: q → later = q

theorem outlasts_append_singleton {paths : List KeyPath} {p q : KeyPath} :
    Outlasts (paths ++ [p]) q ↔ q <+: p ∨ Outlasts paths q ∧ (p <+: q → p = q) := by
  constructor
  · rintro ⟨before, r, after, heq, hr, hafter⟩
    rcases List.eq_nil_or_concat after with rfl | ⟨init, last, rfl⟩
    · obtain ⟨-, hlast⟩ := List.append_inj' heq rfl
      cases hlast
      exact .inl hr
    · rw [List.concat_eq_append, ← List.cons_append, ← List.append_assoc] at heq
      obtain ⟨hinit, hlast⟩ := List.append_inj' heq rfl
      cases hlast
      refine .inr ⟨⟨before, r, init, hinit, hr, fun later hlater => ?_⟩, ?_⟩
      · exact hafter later (by simp [hlater])
      · exact hafter p (by simp)
  · rintro (hp | ⟨⟨before, r, after, rfl, hr, hafter⟩, hp⟩)
    · exact ⟨paths, p, [], rfl, hp, by simp⟩
    · refine ⟨before, r, after ++ [p], by simp, hr, ?_⟩
      intro later hlater
      rcases List.mem_append.mp hlater with hlater | hlater
      · exact hafter later hlater
      · rw [List.mem_singleton.mp hlater]
        exact hp

theorem not_outlasts_of_strict {paths : List KeyPath} {p rest : KeyPath} {key : String} :
    ¬Outlasts (paths ++ [p]) (p ++ key :: rest) := by
  rw [outlasts_append_singleton]
  rintro (hpre | ⟨-, heq⟩)
  · have hlength := hpre.length_le
    rw [List.length_append, List.length_cons] at hlength
    omega
  · simpa using heq ⟨key :: rest, rfl⟩

theorem outlasts_of_leads {paths : List KeyPath} {p q : KeyPath} {next : String}
    (h : p.meet q = .leads next) : Outlasts (paths ++ [p]) q := by
  obtain ⟨rest, rfl⟩ := meet_eq_leads_iff.mp h
  exact outlasts_append_singleton.mpr (.inl ⟨next :: rest, rfl⟩)

theorem outlasts_of_apart {paths : List KeyPath} {p q : KeyPath} (h : p.meet q = .apart) :
    Outlasts (paths ++ [p]) q ↔ Outlasts paths q := by
  have hbelow : ¬q <+: p := by
    rintro ⟨rest, rfl⟩
    cases rest with
    | nil => simp at h
    | cons key rest => simp [meet_eq_leads_iff.mpr ⟨rest, rfl⟩] at h
  simp [outlasts_append_singleton, hbelow, not_prefix_of_apart h]

end KeyPath

namespace KeyTable

open KeyPath (Covered Outlasts)

variable {old t : Tree} {separator : String} {entry : String × Bool}
  {entries : List (String × Bool)}

theorem hasValue_seedOf (h : entry.1 ≠ "") : (seedOf entry).hasValue := by
  rw [seedOf]
  split_ifs
  · rfl
  · simpa [Node.text, Node.hasValue] using h

/-- What the old tree resolves at or below a recorded path, the new tree resolves. -/
theorem resolves_of_covered {q : KeyPath} (hq : q ≠ [])
    (h : build ⟨entries⟩ old separator = .ok t) (hcovered : Covered (paths ⟨entries⟩ separator) q)
    (hold : old.Resolves q) : t.Resolves q := by
  rw [Tree.resolves_iff hq] at hold ⊢
  obtain ⟨found, hfound, hvalue⟩ := hold
  obtain ⟨kept, hkept, hkind, hleaf⟩ := exists_spot?_of_covered hfound h hcovered
  cases found with
  | leaf value => exact ⟨kept, hkept, by rw [hleaf rfl hvalue, hvalue]⟩
  | inner names =>
    cases kept with
    | leaf value => cases hkind
    | inner kept => exact ⟨_, hkept, rfl⟩

/-- A position the old tree says nothing about is resolved as long as the last word on it is a path
at or below it. -/
theorem resolves_iff_outlasts {q : KeyPath} (hq : q ≠ []) (hempty : q ≠ [""])
    (hold : ¬old.Resolves q) (h : build ⟨entries⟩ old separator = .ok t) :
    t.Resolves q ↔ Outlasts (paths ⟨entries⟩ separator) q := by
  rw [Tree.resolves_iff hq] at hold ⊢
  induction h using build_induction with
  | start => simp [Tree.spot?_empty q hq, Outlasts, paths]
  | step entries entry s t _ ht ih =>
    rw [(placed_of_placeKey ht).spot? q, paths_append_singleton]
    cases hmeet : (pathOf separator entry).meet q with
    | covers rest =>
      obtain rfl := KeyPath.meet_eq_covers_iff.mp hmeet
      cases rest with
      | nil =>
        have hkey : entry.1 ≠ "" := by
          intro hkey
          simp [pathOf, hkey, KeyPath.parse_empty] at hempty
        have hseed : nodeOf old separator entry = seedOf entry := by
          rw [List.append_nil, ← Tree.resolves_iff (pathOf_ne_nil separator entry)] at hold
          exact nodeOf_eq_seedOf hold
        refine iff_of_true ⟨(seedOf entry).spot, ?_, ?_⟩ ?_
        · rw [Spot.after, hseed, Node.spot?_nil]
        · rw [Node.hasValue_spot, hasValue_seedOf hkey]
        · exact KeyPath.outlasts_append_singleton.mpr (.inl (by simp))
      | cons key rest =>
        refine iff_of_false ?_ KeyPath.not_outlasts_of_strict
        rw [Spot.after]
        rcases spot?_nodeOf_cases old separator entry with ⟨-, hspot⟩ | ⟨-, hseed⟩
        · rwa [hspot]
        · rw [hseed, spot?_seedOf_eq_none (by simp)]
          simp
    | leads next =>
      obtain ⟨names, hgrow, -⟩ := Spot.exists_grow_eq next (s.spot? q)
      refine iff_of_true ⟨.inner names, ?_, rfl⟩ (KeyPath.outlasts_of_leads hmeet)
      rw [Spot.after, hgrow]
    | apart =>
      rw [KeyPath.outlasts_of_apart hmeet]
      exact ih

end KeyTable

/-- A referenced key is in the new tree with a usable value exactly when the old tree has one for
it, or some path at or below its own comes after every path that leads to an ancestor. -/
theorem referenced_key_survives_iff {old : Tree} {scan : Scan} {separator : String} {g : Generated}
    (h : generate old scan separator = .ok g) {e : Extraction} {call : Call} (he : .ok e ∈ scan)
    (hcall : call ∈ e.calls) (hkey : recordedKey call.key ≠ "") :
    g.tree.Resolves (KeyPath.parse separator (recordedKey call.key)) ↔
      old.Resolves (KeyPath.parse separator (recordedKey call.key)) ∨
        KeyPath.Outlasts (scan.table.paths separator)
          (KeyPath.parse separator (recordedKey call.key)) := by
  obtain ⟨-, hbuild⟩ := exists_generate_iff.mp ⟨g, h, rfl⟩
  obtain ⟨plural, hentry⟩ := exists_entry_of_call he hcall
  have hpath := KeyPath.parse_ne_nil separator (recordedKey call.key)
  have hempty : KeyPath.parse separator (recordedKey call.key) ≠ [""] :=
    fun hparse => hkey (KeyPath.eq_empty_of_parse hparse)
  by_cases hold : old.Resolves (KeyPath.parse separator (recordedKey call.key))
  · have hcovered := KeyTable.covered_pathOf separator hentry
    exact iff_of_true (KeyTable.resolves_of_covered hpath hbuild hcovered hold) (.inl hold)
  · exact (KeyTable.resolves_iff_outlasts hpath hempty hold hbuild).trans (or_iff_right hold).symm

/-- A new key below a subtree that is kept, with the shorter key first. -/
theorem longer_key_survives :
    let old : Tree := .branch "a" (.leaf "x" (.text "1") .nil) .nil
    let new : Tree := .branch "a" (.leaf "x" (.text "1") (.leaf "b" (.text "a|b") .nil)) .nil
    generate old [.ok (.declaring ["a", "a|b"])] "|" =
        .ok ⟨new, [("src/a.ts", 2)], 2, []⟩ ∧
      new.Resolves (KeyPath.parse "|" (recordedKey "a|b")) := by
  intro old new
  have hgenerate : generate old [.ok (.declaring ["a", "a|b"])] "|" =
      .ok ⟨new, [("src/a.ts", 2)], 2, []⟩ := by decide
  have hlast : KeyPath.Outlasts (Scan.table [.ok (.declaring ["a", "a|b"])] |>.paths "|")
      (KeyPath.parse "|" (recordedKey "a|b")) :=
    ⟨[["a"]], ["a", "b"], [], by decide, by decide, by simp⟩
  exact ⟨hgenerate, (referenced_key_survives_iff hgenerate (List.mem_singleton_self _)
    (List.mem_cons_of_mem _ (List.mem_singleton_self _)) (by decide)).mpr (.inr hlast)⟩

/-- The same keys in the other order: the shorter key puts the old subtree over the new entry. -/
theorem longer_key_lost :
    ¬∀ (old : Tree) (scan : Scan) (separator : String) (g : Generated), old.WellFormed →
      generate old scan separator = .ok g → ∀ (e : Extraction) (call : Call), .ok e ∈ scan →
        call ∈ e.calls → recordedKey call.key ≠ "" →
          g.tree.Resolves (KeyPath.parse separator (recordedKey call.key)) := by
  intro hall
  let old : Tree := .branch "a" (.leaf "x" (.text "1") .nil) .nil
  have hold : old.WellFormed := by simp [old, Tree.WellFormed, Phrase.WellFormed]
  have hgenerate : generate old [.ok (.declaring ["a|b", "a"])] "|" =
      .ok ⟨old, [("src/a.ts", 2)], 2, []⟩ := by decide
  obtain ⟨node, hnode, -⟩ := hall old _ "|" _ hold hgenerate _ _ (List.mem_singleton_self _)
    List.mem_cons_self (by decide)
  have hlost : old.get? (KeyPath.parse "|" (recordedKey "a|b")) = none := by decide
  rw [hlost] at hnode
  cases hnode

end Phrasebook
