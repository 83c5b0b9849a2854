import Phrasebook.Tree.Access

/-!
The leaves of a tree in document order, enumerated at once or one step at a time.
-/
namespace Phrasebook.Tree

/-- Every leaf below `trail` with its path, depth first. Plural forms are not leaves of their own. -/
def leavesBelow (trail : KeyPath) : Tree → List (KeyPath × Phrase)
  | .nil => []
  | .leaf key value rest => (trail.child key, value) :: rest.leavesBelow trail
  | .branch key children rest =>
    children.leavesBelow (trail.child key) ++ rest.leavesBelow trail

def leaves (t : Tree) : List (KeyPath × Phrase) :=
  t.leavesBelow []

def weight : Tree → Nat
  | .nil => 0
  | .leaf _ _ rest => rest.weight + 1
  | .branch _ children rest => children.weight + rest.weight + 1

/-- A walk in progress: the entries still to visit on each open level, innermost first, and the keys
of the subtrees that were entered, outermost first. -/
structure Walk where
  levels : List Tree
  trail : KeyPath
  deriving DecidableEq, Repr

namespace Walk

def start (t : Tree) : Walk := ⟨[t], []⟩

/-- Entries still to visit plus levels still to close. -/
def remaining (w : Walk) : Nat :=
  w.levels.foldr (fun level steps => 2 * level.weight + 1 + steps) 0

def next? (w : Walk) : Option ((KeyPath × Phrase) × Walk) :=
  match w with
  | ⟨[], _⟩ => none
  | ⟨.nil :: outer, trail⟩ => next? ⟨outer, trail.dropLast⟩
  | ⟨.leaf key value rest :: outer, trail⟩ =>
    some ((trail.child key, value), ⟨rest :: outer, trail⟩)
  | ⟨.branch key children rest :: outer, trail⟩ =>
    next? ⟨children :: rest :: outer, trail.child key⟩
termination_by w.remaining
decreasing_by
  all_goals simp [remaining, weight]
  omega

theorem remaining_lt_of_next? {w after : Walk} {item : KeyPath × Phrase}
    (h : w.next? = some (item, after)) : after.remaining < w.remaining := by
  fun_induction next? w with
  | case1 => simp at h
  | case2 outer trail ih =>
    have := ih h
    simp only [remaining, List.foldr_cons] at this ⊢
    omega
  | case3 key value rest outer trail =>
    cases h
    simp [remaining, weight]
  | case4 key children rest outer trail ih =>
    have := ih h
    simp only [remaining, List.foldr_cons, weight] at this ⊢
    omega

def toList (w : Walk) : List (KeyPath × Phrase) :=
  match _h : w.next? with
  | none => []
  | some (item, after) => item :: toList after
termination_by w.remaining
decreasing_by exact remaining_lt_of_next? _h

end Walk
end Phrasebook.Tree
