import Mathlib.Data.List.Infix
import Phrasebook.Generate
import Phrasebook.Proofs.Splitting
import Phrasebook.Proofs.Tree.Shape

/-!
The canonical tree as its keys are placed one after the other. A spot at or below the path of some
key comes from the old tree or from a seed, and what the old tree has there is kept.
-/
namespace Phrasebook
namespace KeyPath

def Covered (paths : List KeyPath) (q : KeyPath) : Prop :=
  ∃ p ∈ paths, p <+: q

theorem covered_append_singleton {paths : List KeyPath} {p q : KeyPath} :
    Covered (paths ++ [p]) q ↔ Covered paths q ∨ p <+: q := by
  simp [Covered, or_and_right, exists_or]

end KeyPath

/-- Whether a path leads to a node with a usable value. -/
def Tree.Resolves (t : Tree) (path : KeyPath) : Prop :=
  ∃ node, t.get? path = some node ∧ node.hasValue

theorem Tree.resolves_iff {t : Tree} {path : KeyPath} (hpath : path ≠ []) :
    t.Resolves path ↔ ∃ s, t.spot? path = some s ∧ s.hasValue := by
  constructor
  · rintro ⟨node, hget, hvalue⟩
    exact ⟨node.spot, spot?_of_get? hget, by rwa [Node.hasValue_spot]⟩
  · rintro ⟨s, hspot, hvalue⟩
    obtain ⟨node, hget, rfl⟩ := exists_get?_of_spot? hpath hspot
    exact ⟨node, hget, by rwa [Node.hasValue_spot] at hvalue⟩

/-- A subtree is always of use. -/
theorem Tree.resolves_of_inner {t : Tree} {path : KeyPath} {names : List String}
    (hpath : path ≠ []) (h : t.spot? path = some (.inner names)) : t.Resolves path :=
  (resolves_iff hpath).mpr ⟨_, h, rfl⟩

namespace KeyTable

open KeyPath (Covered)

variable {old s t : Tree} {separator : String} {entry : String × Bool}
  {entries : List (String × Bool)}

def pathOf (separator : String) (entry : String × Bool) : KeyPath :=
  KeyPath.parse separator entry.1

def seedOf (entry : String × Bool) : Node :=
  if entry.2 then .plural (.seeded entry.1) else .text entry.1

def nodeOf (old : Tree) (separator : String) (entry : String × Bool) : Node :=
  nodeFor old (pathOf separator entry) entry.1 entry.2

def paths (table : KeyTable) (separator : String) : List KeyPath :=
  table.keys.map (pathOf separator)

theorem pathOf_ne_nil (separator : String) (entry : String × Bool) : pathOf separator entry ≠ [] :=
  KeyPath.parse_ne_nil separator entry.1

theorem exists_seedOf_eq (entry : String × Bool) : ∃ value, seedOf entry = .leaf value := by
  rw [seedOf]
  split_ifs
  · exact ⟨_, rfl⟩
  · exact ⟨_, rfl⟩

@[simp] theorem kind_seedOf (entry : String × Bool) : (seedOf entry).kind = .phrase := by
  obtain ⟨value, h⟩ := exists_seedOf_eq entry
  rw [h]
  rfl

theorem wellFormed_seedOf (entry : String × Bool) : (seedOf entry).WellFormed := by
  rw [seedOf]
  split_ifs
  · simp [Node.plural, Node.WellFormed, Phrase.WellFormed, Plural.WellFormed, Plural.seeded,
      Plural.ofForms, Assoc.Unique, Plural.otherForm, Plural.oneForm]
  · trivial

theorem spot?_seedOf_eq_none {rest : KeyPath} (hrest : rest ≠ []) (entry : String × Bool) :
    (seedOf entry).spot? rest = none := by
  obtain ⟨value, h⟩ := exists_seedOf_eq entry
  rw [h, Node.spot?]
  simp [hrest]

theorem spot?_seedOf_ne_inner (entry : String × Bool) (rest : KeyPath) (names : List String) :
    (seedOf entry).spot? rest ≠ some (.inner names) := by
  obtain ⟨value, h⟩ := exists_seedOf_eq entry
  rw [h, Node.spot?]
  split_ifs <;> simp

theorem nodeOf_cases (old : Tree) (separator : String) (entry : String × Bool) :
    (∃ node, old.get? (pathOf separator entry) = some node ∧ node.hasValue ∧
        nodeOf old separator entry = node) ∨
      (¬old.Resolves (pathOf separator entry) ∧ nodeOf old separator entry = seedOf entry) := by
  rw [nodeOf, nodeFor, Tree.Resolves]
  cases hget : old.get? (pathOf separator entry) with
  | none => exact .inr ⟨by simp, rfl⟩
  | some node =>
    by_cases hvalue : node.hasValue
    · exact .inl ⟨node, rfl, hvalue, by simp [hvalue]⟩
    · exact .inr ⟨by simpa using hvalue, by simp [hvalue, seedOf]⟩

theorem nodeOf_eq_seedOf (h : ¬old.Resolves (pathOf separator entry)) :
    nodeOf old separator entry = seedOf entry := by
  rcases nodeOf_cases old separator entry with ⟨node, hget, hvalue, -⟩ | ⟨-, hseed⟩
  · exact absurd ⟨node, hget, hvalue⟩ h
  · exact hseed

/-- The node of a key shows the spots of the old tree, or it is a seed. -/
theorem spot?_nodeOf_cases (old : Tree) (separator : String) (entry : String × Bool) :
    (old.Resolves (pathOf separator entry) ∧
        ∀ rest, (nodeOf old separator entry).spot? rest =
          old.spot? (pathOf separator entry ++ rest)) ∨
      (¬old.Resolves (pathOf separator entry) ∧ nodeOf old separator entry = seedOf entry) := by
  rcases nodeOf_cases old separator entry with ⟨node, hget, hvalue, heq⟩ | hseed
  · refine .inl ⟨⟨node, hget, hvalue⟩, fun rest => ?_⟩
    rw [heq, Tree.spot?_append hget]
  · exact .inr hseed

theorem wellFormed_nodeOf (h : old.WellFormed) (separator : String) (entry : String × Bool) :
    (nodeOf old separator entry).WellFormed := by
  rcases nodeOf_cases old separator entry with ⟨node, hget, -, heq⟩ | ⟨-, heq⟩
  · rw [heq]
    exact h.get? hget
  · rw [heq]
    exact wellFormed_seedOf entry

/-- What the old tree has at or below the path of a key is in the node of the key. An empty text
gives way to a seed. -/
theorem exists_spot?_nodeOf {rest : KeyPath} {found : Spot}
    (h : old.spot? (pathOf separator entry ++ rest) = some found) :
    ∃ kept, (nodeOf old separator entry).spot? rest = some kept ∧ kept.kind = found.kind ∧
      (found.hasValue → kept = found) := by
  rcases spot?_nodeOf_cases old separator entry with ⟨-, hspot⟩ | ⟨hunusable, hseed⟩
  · exact ⟨found, by rw [hspot, h], rfl, fun _ => rfl⟩
  · have hpath := pathOf_ne_nil separator entry
    cases rest with
    | nil =>
      rw [List.append_nil] at h
      have hvalue : ¬found.hasValue := fun hvalue =>
        hunusable ((Tree.resolves_iff hpath).mpr ⟨found, h, hvalue⟩)
      refine ⟨(seedOf entry).spot, by rw [hseed, Node.spot?_nil], ?_, fun hv => absurd hv hvalue⟩
      cases found with
      | leaf value => rw [Node.kind_spot, kind_seedOf]; rfl
      | inner names => exact absurd rfl hvalue
    | cons key rest =>
      obtain ⟨names, hinner⟩ := Tree.exists_inner (by simp) h
      exact absurd (Tree.resolves_of_inner hpath hinner) hunusable

/-- One key placed: what stands on its way lets it pass, and every spot changes as its path meets
it. -/
structure Placed (old : Tree) (separator : String) (s : Tree) (entry : String × Bool) (t : Tree) :
    Prop where
  admits (q : KeyPath) : Spot.Admits (nodeOf old separator entry).kind (s.spot? q)
    ((pathOf separator entry).meet q)
  spot? (q : KeyPath) : t.spot? q =
    Spot.after (nodeOf old separator entry) (s.spot? q) ((pathOf separator entry).meet q)

theorem placeKey_eq_ok_iff :
    placeKey old separator s entry = .ok t ↔
      (∀ q, Spot.Admits (nodeOf old separator entry).kind (s.spot? q)
        ((pathOf separator entry).meet q)) ∧
        s.place (nodeOf old separator entry) (pathOf separator entry) = t := by
  rw [← Tree.set_eq_ok_iff (pathOf_ne_nil separator entry), nodeOf, pathOf]
  unfold placeKey
  cases hset : s.set (KeyPath.parse separator entry.1)
      (nodeFor old (KeyPath.parse separator entry.1) entry.1 entry.2) with
  | error cause => simp [hset]
  | ok tree => simp [hset]

theorem placed_of_placeKey (h : placeKey old separator s entry = .ok t) :
    Placed old separator s entry t := by
  obtain ⟨hadmits, rfl⟩ := placeKey_eq_ok_iff.mp h
  have hpath := pathOf_ne_nil separator entry
  exact ⟨hadmits, Tree.spot?_place hpath ((Tree.collision?_eq_none_iff hpath).mpr hadmits)⟩

theorem build_append_iff {more : List (String × Bool)} :
    build ⟨entries ++ more⟩ old separator = .ok t ↔
      ∃ s, build ⟨entries⟩ old separator = .ok s ∧
        more.foldlM (placeKey old separator) s = .ok t := by
  rw [build, List.foldlM_append, build]
  cases entries.foldlM (placeKey old separator) Tree.nil with
  | error e => simp [bind, Except.bind]
  | ok s => simp [bind, Except.bind]

theorem build_snoc_iff :
    build ⟨entries ++ [entry]⟩ old separator = .ok t ↔
      ∃ s, build ⟨entries⟩ old separator = .ok s ∧ placeKey old separator s entry = .ok t := by
  simp [build_append_iff]

/-- What holds of the empty tree and is kept by every key holds of what is built. -/
theorem build_induction
    {motive : ∀ entries t, build ⟨entries⟩ old separator = .ok t → Prop}
    (start : motive [] .nil rfl)
    (step : ∀ entries entry s t (hs : build ⟨entries⟩ old separator = .ok s)
      (ht : placeKey old separator s entry = .ok t), motive entries s hs →
        motive (entries ++ [entry]) t (build_snoc_iff.mpr ⟨s, hs, ht⟩))
    {entries : List (String × Bool)} {t : Tree} (h : build ⟨entries⟩ old separator = .ok t) :
    motive entries t h := by
  induction entries using List.reverseRecOn generalizing t with
  | nil =>
    cases h
    exact start
  | append_singleton entries entry ih =>
    obtain ⟨s, hs, ht⟩ := build_snoc_iff.mp h
    exact step entries entry s t hs ht (ih hs)

@[simp] theorem paths_append_singleton :
    paths ⟨entries ++ [entry]⟩ separator =
      paths ⟨entries⟩ separator ++ [pathOf separator entry] := by
  simp [paths]

theorem covered_of_mem {q : KeyPath} (hentry : entry ∈ entries)
    (h : pathOf separator entry <+: q) : Covered (paths ⟨entries⟩ separator) q :=
  ⟨_, List.mem_map_of_mem hentry, h⟩

theorem covered_pathOf (separator : String) (hentry : entry ∈ entries) :
    Covered (paths ⟨entries⟩ separator) (pathOf separator entry) :=
  covered_of_mem hentry List.prefix_rfl

theorem wellFormed_of_build (hold : old.WellFormed)
    (h : build ⟨entries⟩ old separator = .ok t) : t.WellFormed := by
  induction h using build_induction with
  | start => trivial
  | step entries entry s t _ ht ih =>
    obtain ⟨-, rfl⟩ := placeKey_eq_ok_iff.mp ht
    exact ih.place (wellFormed_nodeOf hold separator entry) _

/-- What the old tree has at or below the path of some key stays there: a leaf with its value, a
subtree as a subtree. -/
theorem exists_spot?_of_covered {q : KeyPath} {found : Spot} (hfound : old.spot? q = some found)
    (h : build ⟨entries⟩ old separator = .ok t) (hq : Covered (paths ⟨entries⟩ separator) q) :
    ∃ kept, t.spot? q = some kept ∧ kept.kind = found.kind ∧
      (found.kind = .phrase → found.hasValue → kept = found) := by
  induction h using build_induction with
  | start => simp [Covered, paths] at hq
  | step entries entry s t _ ht ih =>
    have hplaced := placed_of_placeKey ht
    have hadmits := hplaced.admits q
    rw [paths_append_singleton, KeyPath.covered_append_singleton] at hq
    rw [hplaced.spot? q]
    cases hmeet : (pathOf separator entry).meet q with
    | covers rest =>
      obtain rfl := KeyPath.meet_eq_covers_iff.mp hmeet
      obtain ⟨kept, hkept, hkind, hvalue⟩ := exists_spot?_nodeOf hfound
      exact ⟨kept, hkept, hkind, fun _ => hvalue⟩
    | leads next =>
      obtain ⟨kept, hkept, hkind, -⟩ := ih (hq.resolve_right (KeyPath.not_prefix_of_leads hmeet))
      rw [hmeet, hkept] at hadmits
      rw [hkept]
      -- A leaf would have stopped the path, so both spots are subtrees.
      cases kept with
      | leaf value => exact absurd rfl (hadmits value)
      | inner names => exact ⟨_, rfl, hkind, fun hphrase => by rw [hphrase] at hkind; cases hkind⟩
    | apart => exact ih (hq.resolve_right (KeyPath.not_prefix_of_apart hmeet))

end KeyTable
end Phrasebook
