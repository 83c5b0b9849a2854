import Phrasebook.Proofs.Script.Columns

/-!
Where invocations start. An outline shows in the script where its names and its `new` expressions
stand, so a call begins with its name or with `new`, unless an escape or what is passed over comes
first.
-/
namespace Phrasebook.Script

variable {src : Source} {made : Invocation src} {position : Nat} {c : Char}

/-- Whether an invocation shows where it starts: by the name that is called, or by `new`. -/
def Invocation.Opens (made : Invocation src) : Prop :=
  src.Opens made.start made.callee ∨ src.Opens made.start "new"

namespace Outline

theorem opens_of_name? {outline : Outline src} {text : String} (h : outline.name? = some text) :
    src.Opens outline.start text := by
  have hopens := outline.opens
  rw [name?] at h
  split at h
  case h_1 name hname =>
    cases h
    rw [hname] at hopens
    exact hopens
  case h_2 => cases h

theorem opens_of_invocation? {outline : Outline src} (h : outline.invocation? = some made) :
    made.Opens := by
  unfold invocation? at h
  split at h
  case h_1 _ callee _ _ =>
    obtain ⟨name, hname, rfl⟩ := Option.map_eq_some_iff.mp h
    exact .inl (opens_of_name? hname)
  case h_2 opens =>
    obtain ⟨name, hname, rfl⟩ := Option.map_eq_some_iff.mp h
    exact .inr opens
  case h_3 => cases h

mutual

theorem opens_of_mem_invocations : (outline : Outline src) → made ∈ outline.invocations →
    made.Opens
  | .node form start parts opens, h => by
    rw [invocations, List.mem_append, Option.mem_toList] at h
    rcases h with h | h
    · exact opens_of_invocation? h
    · exact opens_of_mem_partsInvocations parts h

theorem opens_of_mem_partsInvocations : (parts : List (Outline src)) →
    made ∈ partsInvocations parts → made.Opens
  | [], h => by cases h
  | part :: parts, h => by
    rw [partsInvocations, List.mem_append] at h
    rcases h with h | h
    · exact opens_of_mem_invocations part h
    · exact opens_of_mem_partsInvocations parts h

end

end Outline

def LinedSource.behind (text : LinedSource) (position : Nat) : List Char :=
  (text.textOfLineAt position).toList.drop (position - text.lineStartAt position)

theorem LinedSource.lineStartAt_le (text : LinedSource) (position : Nat) :
    text.lineStartAt position ≤ position := by
  rw [lineStartAt]
  cases hlast : (text.starts.takeWhile (· ≤ position)).getLast? with
  | none => exact Nat.zero_le _
  | some start =>
    have hmem := List.mem_of_getLast? hlast
    simpa using List.mem_takeWhile_imp hmem

/-- What is behind a position on its line begins with the character that stands there. -/
theorem Source.exists_behind (h : src[position]? = some c) (hc : c ≠ '\n') :
    ∃ after, src.lined.behind position = c :: after := by
  have hle := src.lined.lineStartAt_le position
  generalize hline : src.toList.drop (src.lined.lineStartAt position) = text
  generalize hcount : position - src.lined.lineStartAt position = count
  have hstands : text[count]? = some c := by
    rw [← hline, List.getElem?_drop, ← hcount, Nat.add_sub_cancel' hle, Array.getElem?_toList]
    exact h
  obtain ⟨hlt, hget⟩ := List.getElem?_eq_some_iff.mp hstands
  obtain ⟨front, rest, rfl, hlength⟩ : ∃ front rest, text = front ++ c :: rest ∧
      front.length = count := by
    refine ⟨text.take count, text.drop (count + 1), ?_, List.length_take_of_le (Nat.le_of_lt hlt)⟩
    rw [← hget, ← List.drop_eq_getElem_cons hlt, List.take_append_drop]
  -- A line feed in front of the position would start a line behind it.
  have hfront : ∀ a ∈ front, decide (a ≠ '\n') := by
    intro a ha
    refine decide_eq_true fun hfeed => ?_
    obtain ⟨before, back, rfl, -⟩ := List.eq_append_cons_of_mem (hfeed ▸ ha)
    rw [List.append_assoc, List.cons_append] at hline
    rw [List.length_append, List.length_cons] at hlength
    have hback := eq_nil_of_lineFeed hline (by omega)
    simp at hback
  refine ⟨rest.takeWhile (· ≠ '\n'), ?_⟩
  rw [LinedSource.behind, toList_textOfLineAt, hline, hcount,
    List.takeWhile_append_of_pos hfront, List.takeWhile_cons_of_pos (by simpa using hc),
    List.drop_left' hlength]

end Phrasebook.Script
