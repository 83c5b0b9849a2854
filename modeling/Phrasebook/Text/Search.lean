/-!
Substring search on lists of characters: the leftmost occurrence, splitting and replacing.
-/
namespace Phrasebook.Text

def dropPrefix? : List Char → List Char → Option (List Char)
  | [], s => some s
  | _ :: _, [] => none
  | p :: ps, c :: cs => if p = c then dropPrefix? ps cs else none

def breakOn? (pattern : List Char) : List Char → Option (List Char × List Char)
  | [] => (dropPrefix? pattern []).map ([], ·)
  | c :: cs =>
    match dropPrefix? pattern (c :: cs) with
    | some rest => some ([], rest)
    | none => (breakOn? pattern cs).map fun (before, after) => (c :: before, after)

def contains (pattern text : List Char) : Bool :=
  (breakOn? pattern text).isSome

/-- Splits at the non-overlapping occurrences of `separator`, leftmost first. The counter skips the
rest of an occurrence that has been recognised. -/
def splitFrom (separator : List Char) : Nat → List Char → List Char × List (List Char)
  | _, [] => ([], [])
  | k + 1, _ :: cs => splitFrom separator k cs
  | 0, c :: cs =>
    if separator.isPrefixOf (c :: cs) then
      let (piece, pieces) := splitFrom separator (separator.length - 1) cs
      ([], piece :: pieces)
    else
      let (piece, pieces) := splitFrom separator 0 cs
      (c :: piece, pieces)

/-- The pieces between occurrences of `separator`; an empty separator does not split. -/
def splitOn (separator text : List Char) : List (List Char) :=
  if separator.isEmpty then [text]
  else
    let (piece, pieces) := splitFrom separator 0 text
    piece :: pieces

def replace (pattern replacement text : List Char) : List Char :=
  replacement.intercalate (splitOn pattern text)

theorem dropPrefix?_eq_some {pattern text rest : List Char} :
    dropPrefix? pattern text = some rest ↔ text = pattern ++ rest := by
  induction pattern generalizing text with
  | nil => simp [dropPrefix?, eq_comm]
  | cons p ps ih =>
    cases text with
    | nil => simp [dropPrefix?]
    | cons c cs => by_cases h : p = c <;> simp [dropPrefix?, h, ih, eq_comm]

theorem eq_append_of_breakOn? {pattern text before after : List Char}
    (h : breakOn? pattern text = some (before, after)) : text = before ++ pattern ++ after := by
  induction text generalizing before with
  | nil =>
    simp only [breakOn?, Option.map_eq_some_iff, Prod.mk.injEq, exists_eq_right_right] at h
    obtain ⟨h, rfl⟩ := h
    simpa using dropPrefix?_eq_some.1 h
  | cons c cs ih =>
    unfold breakOn? at h
    split at h
    · rename_i rest hrest
      cases h
      simpa using dropPrefix?_eq_some.1 hrest
    · obtain ⟨⟨b, a⟩, hb, hba⟩ := Option.map_eq_some_iff.1 h
      cases hba
      simp [ih hb]

end Phrasebook.Text
