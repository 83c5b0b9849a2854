import Mathlib.Tactic.Common
import Phrasebook.KeyLine

/-!
Looking for the segments of a path in a text. Each search takes the first place where its segment
stands as a key, so the whole search never goes beyond any other way to read the path in the text.
-/
namespace Phrasebook.KeyLine

variable {quoted before after text rest : List Char} {path : KeyPath}

def standsAsKey (quoted text : List Char) : Bool :=
  (Text.dropPrefix? quoted text).any isKeyBefore

def spotCount (quoted : List Char) : List Char → Nat
  | [] => 0
  | c :: cs => (if standsAsKey quoted (c :: cs) then 1 else 0) + spotCount quoted cs

theorem standsAsKey_append (quoted after : List Char) :
    standsAsKey quoted (quoted ++ after) = isKeyBefore after := by
  rw [standsAsKey, Text.dropPrefix?_eq_some.mpr rfl]
  rfl

theorem standsAsKey_iff :
    standsAsKey quoted text ↔ ∃ after, text = quoted ++ after ∧ isKeyBefore after := by
  rw [standsAsKey, Option.any_eq_true]
  simp only [Text.dropPrefix?_eq_some]

theorem spotCount_le_append (quoted before after : List Char) :
    spotCount quoted after ≤ spotCount quoted (before ++ after) := by
  induction before with
  | nil => exact Nat.le_refl _
  | cons c before ih =>
    rw [List.cons_append, spotCount]
    omega

theorem findKey?_cons (quoted : List Char) (c : Char) (cs : List Char) :
    findKey? quoted (c :: cs) =
      if standsAsKey quoted (c :: cs) then Text.dropPrefix? quoted (c :: cs)
      else findKey? quoted cs := by
  rw [findKey?, standsAsKey]
  cases Text.dropPrefix? quoted (c :: cs) with
  | none => rfl
  | some after => rfl

theorem findKey?_of_standsAsKey (hquoted : quoted ≠ []) (h : isKeyBefore after) :
    findKey? quoted (quoted ++ after) = some after := by
  obtain ⟨c, cs, rfl⟩ := List.exists_cons_of_ne_nil hquoted
  have hstands := standsAsKey_append (c :: cs) after
  rw [List.cons_append] at hstands ⊢
  rw [findKey?_cons, hstands, if_pos h, ← List.cons_append]
  exact Text.dropPrefix?_eq_some.mpr rfl

/-- The search ends no later than at any place where the segment stands as a key. -/
theorem exists_findKey? (hquoted : quoted ≠ []) (h : isKeyBefore after) (before : List Char) :
    ∃ rest, findKey? quoted (before ++ quoted ++ after) = some rest ∧ after <:+ rest := by
  induction before with
  | nil => exact ⟨after, findKey?_of_standsAsKey hquoted h, List.suffix_rfl⟩
  | cons c before ih =>
    rw [List.cons_append, List.cons_append, findKey?_cons]
    split_ifs with hfront
    · obtain ⟨rest, htext, -⟩ := standsAsKey_iff.mp hfront
      refine ⟨rest, Text.dropPrefix?_eq_some.mpr htext, ?_⟩
      have hlength := congrArg List.length htext
      simp only [List.length_cons, List.length_append] at hlength
      have hafter : after <:+ quoted ++ rest := htext ▸ ⟨c :: (before ++ quoted), by simp⟩
      exact List.suffix_of_suffix_length_le hafter (List.suffix_append quoted rest) (by omega)
    · exact ih

/-- Where a segment stands as a key at one place only, the search finds it there. -/
theorem findKey?_of_unique (hquoted : quoted ≠ []) (h : isKeyBefore after) {before : List Char}
    (hunique : spotCount quoted (before ++ quoted ++ after) ≤ 1) :
    findKey? quoted (before ++ quoted ++ after) = some after := by
  have hspot : 0 < spotCount quoted (quoted ++ after) := by
    obtain ⟨c, cs, rfl⟩ := List.exists_cons_of_ne_nil hquoted
    have hstands := standsAsKey_append (c :: cs) after
    rw [List.cons_append] at hstands ⊢
    rw [spotCount, hstands, if_pos h]
    omega
  induction before with
  | nil => exact findKey?_of_standsAsKey hquoted h
  | cons c before ih =>
    rw [List.cons_append, List.cons_append, spotCount] at hunique
    have hlater : spotCount quoted (quoted ++ after) ≤
        spotCount quoted (before ++ quoted ++ after) := by
      rw [List.append_assoc]
      exact spotCount_le_append quoted before (quoted ++ after)
    rw [List.cons_append, List.cons_append, findKey?_cons]
    split_ifs at hunique ⊢ with hfront
    · omega
    · exact ih (by omega)

def followAll? : KeyPath → List Char → Option (List Char)
  | [], text => some text
  | segment :: path, text => (findKey? (Json.quote segment) text).bind (followAll? path)

/-- The segments of a path stand in a text one behind the other, each as a key, and `rest` is what
follows the last one. -/
inductive Reads : KeyPath → List Char → List Char → Prop
  | nil (rest : List Char) : Reads [] rest rest
  | cons {segment : String} {path : KeyPath} {before after rest : List Char}
      (key : isKeyBefore after) (below : Reads path after rest) :
      Reads (segment :: path) (before ++ Json.quote segment ++ after) rest

theorem follow_of_followAll? (h : followAll? path text = some rest) : follow path text = rest := by
  induction path generalizing text with
  | nil => exact Option.some.inj h
  | cons segment path ih =>
    obtain ⟨after, hfind, hbelow⟩ := Option.bind_eq_some_iff.mp h
    rw [follow, hfind]
    exact ih hbelow

theorem quote_ne_nil (segment : String) : Json.quote segment ≠ [] :=
  List.cons_ne_nil _ _

theorem Reads.prepend (h : Reads path text rest) (hpath : path ≠ []) (front : List Char) :
    Reads path (front ++ text) rest := by
  cases h with
  | nil => exact absurd rfl hpath
  | @cons segment path before after rest key below =>
    rw [← List.append_assoc, ← List.append_assoc]
    exact .cons key below

/-- Every segment is found, and the search ends no later than any reading of the path. -/
theorem Reads.exists_followAll? (h : Reads path text rest) {whole : List Char}
    (hwhole : text <:+ whole) : ∃ found, followAll? path whole = some found ∧ rest <:+ found := by
  induction h generalizing whole with
  | nil rest => exact ⟨whole, rfl, hwhole⟩
  | @cons segment path before after rest key below ih =>
    obtain ⟨front, rfl⟩ := hwhole
    rw [← List.append_assoc, ← List.append_assoc]
    obtain ⟨next, hfind, hafter⟩ := exists_findKey? (quote_ne_nil segment) key (front ++ before)
    obtain ⟨found, hbelow, hrest⟩ := ih hafter
    exact ⟨found, by rw [followAll?, hfind]; exact hbelow, hrest⟩

/-- Where each segment stands as a key at one place only, there is one reading and it is found. -/
theorem Reads.followAll?_eq (h : Reads path text rest)
    (hunique : ∀ segment ∈ path, spotCount (Json.quote segment) text ≤ 1) :
    followAll? path text = some rest := by
  induction h with
  | nil rest => rfl
  | @cons segment path before after rest key below ih =>
    have hhere := hunique segment List.mem_cons_self
    rw [followAll?, findKey?_of_unique (quote_ne_nil segment) key hhere, Option.bind_some]
    refine ih fun other hother => ?_
    calc spotCount (Json.quote other) after
        ≤ spotCount (Json.quote other) (before ++ Json.quote segment ++ after) :=
          spotCount_le_append _ _ _
      _ ≤ 1 := hunique other (List.mem_cons_of_mem _ hother)

end Phrasebook.KeyLine
