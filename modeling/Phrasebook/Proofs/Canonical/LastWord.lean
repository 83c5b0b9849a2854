import Phrasebook.Proofs.Canonical.Placement

/-!
The last word on a position: the last key whose path covers it decides what stands there, and later
keys that lead through it only add names.
-/
namespace Phrasebook

theorem exists_last {α : Type} {l : List α} {P : α → Prop} (h : ∃ a ∈ l, P a) :
    ∃ before a after, l = before ++ a :: after ∧ P a ∧ ∀ later ∈ after, ¬P later := by
  induction l with
  | nil => simp at h
  | cons a l ih =>
    by_cases hl : ∃ b ∈ l, P b
    · obtain ⟨before, b, after, rfl, hb, hafter⟩ := ih hl
      exact ⟨a :: before, b, after, rfl, hb, hafter⟩
    · obtain ⟨b, hb, hP⟩ := h
      rcases List.mem_cons.mp hb with rfl | hb
      · exact ⟨[], b, l, rfl, hP, fun later hlater hP' => hl ⟨later, hlater, hP'⟩⟩
      · exact absurd ⟨b, hb, hP⟩ hl

namespace Spot

def growAll (names : List String) (spot : Option Spot) : Option Spot :=
  names.foldl (fun spot next => some (grow next spot)) spot

@[simp] theorem growAll_nil (spot : Option Spot) : growAll [] spot = spot := rfl

theorem growAll_cons (name : String) (names : List String) (spot : Option Spot) :
    growAll (name :: names) spot = growAll names (some (grow name spot)) := rfl

theorem growAll_inner (names used : List String) :
    ∃ all, growAll names (some (.inner used)) = some (.inner all) ∧ used ⊆ all ∧ names ⊆ all := by
  induction names generalizing used with
  | nil => exact ⟨used, rfl, List.Subset.refl used, by simp⟩
  | cons name names ih =>
    obtain ⟨all, hall, hused, hnames⟩ := ih (if name ∈ used then used else used ++ [name])
    refine ⟨all, hall, fun k hk => hused ?_, List.cons_subset.mpr ⟨hused ?_, hnames⟩⟩
    · split_ifs <;> simp [hk]
    · split_ifs with hname <;> simp [hname]

/-- A name that is used makes a subtree. -/
theorem growAll_cons_inner (name : String) (names : List String) (spot : Option Spot) :
    ∃ all, growAll (name :: names) spot = some (.inner all) ∧ name :: names ⊆ all := by
  obtain ⟨used, hused, hname⟩ := exists_grow_eq name spot
  obtain ⟨all, hall, hsubset, hnames⟩ := growAll_inner names used
  exact ⟨all, by rw [growAll_cons, hused, hall], List.cons_subset.mpr ⟨hsubset hname, hnames⟩⟩

theorem growAll_of_subset {names used : List String} (h : names ⊆ used) :
    growAll names (some (.inner used)) = some (.inner used) := by
  induction names with
  | nil => rfl
  | cons name names ih =>
    obtain ⟨hname, hnames⟩ := List.cons_subset.mp h
    rw [growAll_cons, grow, if_pos hname, ih hnames]

theorem growAll_growAll (names : List String) (spot : Option Spot) :
    growAll names (growAll names spot) = growAll names spot := by
  cases names with
  | nil => rfl
  | cons name names =>
    obtain ⟨all, hall, hsubset⟩ := growAll_cons_inner name names spot
    rw [hall, growAll_of_subset hsubset]

end Spot

namespace KeyTable

open KeyPath (Covered)

variable {old s t : Tree} {separator : String} {entry : String × Bool} {q : KeyPath}
  {entries before after : List (String × Bool)}

def namesAt (separator : String) (entries : List (String × Bool)) (q : KeyPath) : List String :=
  entries.filterMap fun entry =>
    match (pathOf separator entry).meet q with
    | .leads next => some next
    | _ => none

theorem foldlM_cons_iff :
    (entry :: entries).foldlM (placeKey old separator) s = .ok t ↔
      ∃ placed, placeKey old separator s entry = .ok placed ∧
        entries.foldlM (placeKey old separator) placed = .ok t := by
  rw [List.foldlM_cons]
  cases placeKey old separator s entry with
  | error e => simp [bind, Except.bind]
  | ok placed => simp [bind, Except.bind]

/-- Keys that do not cover a position only use names there. -/
theorem spot?_of_foldlM (h : entries.foldlM (placeKey old separator) s = .ok t)
    (hfree : ∀ entry ∈ entries, ¬pathOf separator entry <+: q) :
    t.spot? q = Spot.growAll (namesAt separator entries q) (s.spot? q) := by
  induction entries generalizing s with
  | nil =>
    cases h
    rfl
  | cons entry entries ih =>
    obtain ⟨placed, hplace, h⟩ := foldlM_cons_iff.mp h
    obtain ⟨hentry, hfree⟩ := List.forall_mem_cons.mp hfree
    rw [ih h hfree, (placed_of_placeKey hplace).spot? q, namesAt, namesAt, List.filterMap_cons]
    cases hmeet : (pathOf separator entry).meet q with
    | covers rest => exact absurd (KeyPath.prefix_of_covers hmeet) hentry
    | leads next => rfl
    | apart => rfl

/-- Keys that place no subtree above a leaf leave it alone, and none of their paths meets it. -/
theorem spot?_leaf_of_foldlM {path : KeyPath} {value : Phrase}
    (h : entries.foldlM (placeKey old separator) s = .ok t)
    (hspot : s.spot? path = some (.leaf value))
    (hne : ∀ entry ∈ entries, pathOf separator entry ≠ path)
    (hkind : ∀ entry ∈ entries, pathOf separator entry <+: path →
      (nodeOf old separator entry).kind = .phrase) :
    t.spot? path = some (.leaf value) ∧
      ∀ entry ∈ entries, (pathOf separator entry).meet path = .apart := by
  induction entries generalizing s with
  | nil =>
    cases h
    exact ⟨hspot, by simp⟩
  | cons entry entries ih =>
    obtain ⟨placed, hplace, h⟩ := foldlM_cons_iff.mp h
    rw [List.forall_mem_cons] at hne hkind ⊢
    have hplaced := placed_of_placeKey hplace
    have hmeet : (pathOf separator entry).meet path = .apart := by
      cases hmeet : (pathOf separator entry).meet path with
      | apart => rfl
      | leads next =>
        have hadmits := hplaced.admits path
        rw [hmeet] at hadmits
        exact absurd hspot (hadmits value)
      | covers rest =>
        obtain rfl := KeyPath.meet_eq_covers_iff.mp hmeet
        have hrest : rest ≠ [] := by
          rintro rfl
          simp at hne
        -- The leaf stands in a subtree at the path of the key, which only a subtree replaces.
        obtain ⟨names, hnames⟩ := Tree.exists_inner hrest hspot
        have hadmits := hplaced.admits (pathOf separator entry)
        rw [KeyPath.meet_self] at hadmits
        have hsubtree := hadmits _ hnames
        rw [hkind.1 (KeyPath.prefix_of_covers hmeet)] at hsubtree
        cases hsubtree
    have hstays : placed.spot? path = some (.leaf value) := by
      rw [hplaced.spot? path, hmeet]
      exact hspot
    obtain ⟨hleaf, hall⟩ := ih h hstays hne.2 hkind.2
    exact ⟨hleaf, hmeet, hall⟩

theorem build_cons_iff :
    build ⟨before ++ entry :: after⟩ old separator = .ok t ↔
      ∃ s placed, build ⟨before⟩ old separator = .ok s ∧
        placeKey old separator s entry = .ok placed ∧
          after.foldlM (placeKey old separator) placed = .ok t := by
  rw [build_append_iff]
  constructor
  · rintro ⟨s, hs, ht⟩
    obtain ⟨placed, hplace, ht⟩ := foldlM_cons_iff.mp ht
    exact ⟨s, placed, hs, hplace, ht⟩
  · rintro ⟨s, placed, hs, hplace, ht⟩
    exact ⟨s, hs, foldlM_cons_iff.mpr ⟨placed, hplace, ht⟩⟩

theorem spot?_of_last {rest : KeyPath}
    (h : build ⟨before ++ entry :: after⟩ old separator = .ok t)
    (hlast : ∀ later ∈ after, ¬pathOf separator later <+: pathOf separator entry ++ rest) :
    t.spot? (pathOf separator entry ++ rest) =
      Spot.growAll (namesAt separator after (pathOf separator entry ++ rest))
        ((nodeOf old separator entry).spot? rest) := by
  obtain ⟨s, placed, -, hplace, ht⟩ := build_cons_iff.mp h
  rw [spot?_of_foldlM ht hlast, (placed_of_placeKey hplace).spot?,
    KeyPath.meet_eq_covers_iff.mpr rfl, Spot.after]

theorem spot?_pathOf_of_last (h : build ⟨before ++ entry :: after⟩ old separator = .ok t)
    (hlast : ∀ later ∈ after, ¬pathOf separator later <+: pathOf separator entry) :
    t.spot? (pathOf separator entry) =
      Spot.growAll (namesAt separator after (pathOf separator entry))
        (some (nodeOf old separator entry).spot) := by
  have hself : ∀ later ∈ after, ¬pathOf separator later <+: pathOf separator entry ++ [] := by
    simpa using hlast
  have hspot := spot?_of_last h hself
  rwa [List.append_nil, Node.spot?_nil] at hspot

/-- A key that leaves nothing of use at its path was placed as a new one. -/
theorem nodeOf_eq_seedOf_of_last (h : build ⟨before ++ entry :: after⟩ old separator = .ok t)
    (hlast : ∀ later ∈ after, ¬pathOf separator later <+: pathOf separator entry)
    (hunusable : ¬t.Resolves (pathOf separator entry)) :
    nodeOf old separator entry = seedOf entry := by
  rw [Tree.resolves_iff (pathOf_ne_nil separator entry), spot?_pathOf_of_last h hlast] at hunusable
  cases hnames : namesAt separator after (pathOf separator entry) with
  | cons name names =>
    obtain ⟨all, hall, -⟩ := Spot.growAll_cons_inner name names
      (some (nodeOf old separator entry).spot)
    rw [hnames, hall] at hunusable
    exact absurd ⟨_, rfl, rfl⟩ hunusable
  | nil =>
    rw [hnames, Spot.growAll_nil] at hunusable
    rcases nodeOf_cases old separator entry with ⟨node, -, hvalue, heq⟩ | ⟨-, hseed⟩
    · rw [heq] at hunusable
      exact absurd ⟨_, rfl, by rw [Node.hasValue_spot, hvalue]⟩ hunusable
    · exact hseed

theorem spot?_of_not_covered (h : build ⟨entries⟩ old separator = .ok t)
    (hfree : ¬Covered (paths ⟨entries⟩ separator) q) :
    t.spot? q = Spot.growAll (namesAt separator entries q) (Tree.nil.spot? q) :=
  spot?_of_foldlM h fun _ hentry hpre => hfree (covered_of_mem hentry hpre)

end KeyTable
end Phrasebook
