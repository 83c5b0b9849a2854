import Phrasebook.Proofs.Canonical.Placement
import Phrasebook.Proofs.Flat.Stability
import Phrasebook.Proofs.Prune.Selection
import Phrasebook.Proofs.Rekey.Locales
import Phrasebook.Proofs.Tree.Hollow
import Phrasebook.Proofs.Tree.Sorting

/-!
Trees under any sequence of operations. Keys stay unique at every level, and plurals keep an `other`
form and unique form names.
-/
namespace Phrasebook
inductive Edit where
  | set (path : KeyPath) (node : Node)
  | unset (path : KeyPath)
  | put (key : String) (node : Node)
  | erase (key : String)
  | merge (addition : Tree)
  | pruneEmpty
  | sort
  | expandFlat (separator : String)
  | prune (keys : CanonicalKeys) (separator : String)
  | rekey (move : Rekey)
  | rebuild (table : KeyTable) (separator : String)
  deriving DecidableEq, Repr

namespace Edit

/-- The tree after an operation. One that fails leaves it as it was. -/
def apply (t : Tree) : Edit → Tree
  | .set path node => (t.set path node).toOption.getD t
  | .unset path => t.unset path
  | .put key node => t.put key node
  | .erase key => t.erase key
  | .merge addition => t.merge addition
  | .pruneEmpty => t.pruneEmpty.1
  | .sort => t.sorted
  | .expandFlat separator => (t.expandFlat separator).1
  | .prune keys separator => (t.prune keys separator).tree
  | .rekey move => ((move.apply t).toOption.map (·.treeOr t)).getD t
  | .rebuild table separator => (table.build t separator).toOption.getD t

def applyAll (t : Tree) (edits : List Edit) : Tree :=
  edits.foldl apply t

/-- Whether the nodes and trees among the arguments are well formed. -/
def Sound : Edit → Prop
  | .set _ node => node.WellFormed
  | .put _ node => node.WellFormed
  | .merge addition => addition.WellFormed
  | _ => True

end Edit

namespace Tree

variable {t : Tree}

theorem WellFormed.set {path : KeyPath} {node : Node} (h : t.WellFormed) (hnode : node.WellFormed) :
    ((t.set path node).toOption.getD t).WellFormed := by
  cases hset : t.set path node with
  | error cause => exact h
  | ok written =>
    have hpath : path ≠ [] := by
      rintro rfl
      cases hset
    obtain ⟨-, rfl⟩ := (set_eq_ok_iff hpath).mp hset
    exact h.place hnode path

theorem WellFormed.rekey (h : t.WellFormed) (move : Rekey) :
    (((move.apply t).toOption.map (·.treeOr t)).getD t).WellFormed := by
  cases happly : move.apply t with
  | error cause => exact h
  | ok outcome =>
    cases outcome with
    | skipped => exact h
    | moved tree => exact Rekey.wellFormed_moved h happly

theorem WellFormed.rebuild (h : t.WellFormed) (table : KeyTable) (separator : String) :
    ((table.build t separator).toOption.getD t).WellFormed := by
  cases hbuild : table.build t separator with
  | error unplaced => exact h
  | ok built => exact KeyTable.wellFormed_of_build h hbuild

/-- An operation with well-formed arguments keeps a tree well formed. -/
theorem WellFormed.edit (h : t.WellFormed) {e : Edit} (he : e.Sound) : (e.apply t).WellFormed := by
  cases e with
  | set path node => exact h.set he
  | unset path => exact h.unset path
  | put key node => exact h.put he key
  | erase key => exact h.erase key
  | merge addition => exact h.merge he
  | pruneEmpty => exact (trimmed_pruneEmpty t).wellFormed h
  | sort => exact h.sorted
  | expandFlat separator => exact h.expandFlat separator
  | prune keys separator => exact (trimmed_prune h keys separator).wellFormed h
  | rekey move => exact h.rekey move
  | rebuild table separator => exact h.rebuild table separator

theorem WellFormed.editAll (h : t.WellFormed) {edits : List Edit} (hedits : ∀ e ∈ edits, e.Sound) :
    (Edit.applyAll t edits).WellFormed := by
  induction edits generalizing t with
  | nil => exact h
  | cons e edits ih =>
    obtain ⟨he, hedits⟩ := List.forall_mem_cons.mp hedits
    exact ih (h.edit he) hedits

end Tree

/-- Whatever is done to a tree that was empty or read from a text, its keys are unique at every level
and its plurals well formed. -/
theorem Edit.wellFormed_applyAll {start : Tree}
    (hstart : start = .nil ∨ ∃ content, Tree.parse content = .ok start) {edits : List Edit}
    (hedits : ∀ e ∈ edits, e.Sound) : (applyAll start edits).WellFormed := by
  have hwf : start.WellFormed := by
    rcases hstart with rfl | ⟨content, hcontent⟩
    · trivial
    · exact (Tree.decoded_of_parse hcontent).1
  exact hwf.editAll hedits

/-- A text with a key twice. Its joined keys become a plural, which is copied below a new subtree; a
write through the plural fails. -/
theorem Edit.wellFormed_of_repeated_key :
    let content := "\x7b\"p\": \"1\", \"p|one\": \"2\", \"p|other\": \"3\", \"p\": \x7b\x7d\x7d"
    let start : Tree := .branch "p" .nil
      (.leaf "p|one" (.text "2") (.leaf "p|other" (.text "3") .nil))
    let edits : List Edit := [.expandFlat "|", .rekey ⟨"p", "m|n", "|", true, .forbid⟩,
      .merge (.branch "m" (.branch "e" .nil .nil) .nil), .set ["p", "one"] (.text "4"),
      .pruneEmpty, .sort]
    let record : Phrase := .plural ⟨[("one", "2"), ("other", "3")]⟩
    let final : Tree := .branch "m" (.leaf "n" record .nil) (.leaf "p" record .nil)
    Tree.parse content = .ok start ∧ (∀ e ∈ edits, e.Sound) ∧ applyAll start edits = final ∧
      final.WellFormed := by
  intro content start edits record final
  have hcontent : Tree.parse content = .ok start := by decide +kernel
  have hedits : ∀ e ∈ edits, e.Sound := by
    simp [edits, Sound, Node.text, Node.WellFormed, Tree.WellFormed, Phrase.WellFormed]
  have hfinal : applyAll start edits = final := by decide +kernel
  have hwf := wellFormed_applyAll (.inr ⟨content, hcontent⟩) hedits
  rw [hfinal] at hwf
  exact ⟨hcontent, hedits, hfinal, hwf⟩

end Phrasebook
