import Mathlib.Tactic.Common
import Phrasebook.Text.Width

/-!
The columns of a text in parts. Some characters take a column back from the text behind them, so
columns do not simply add up. What may be taken back is bounded by what a text begins with, and a
character that has its column to itself keeps the texts on its sides apart.
-/
namespace Phrasebook.Text

variable {c : Char} {start after : Start} {added : Int} {next : Following}

/-- The columns that a character before a text may take back from it. -/
def Start.spare : Start → Int
  | .joinedFlagLetter | .joinedFlagsLetter | .tifinaghJoiner | .coengLetter => 1
  | _ => 0

theorem Start.spare_nonneg (start : Start) : 0 ≤ start.spare := by
  cases start <;> simp [spare]

theorem Start.spare_joined (start : Start) : start.joined.spare = start.spare := by
  cases start <;> rfl

theorem Following.spare_styled_le (next : Following) (style : Style) :
    (next.styled style).start.spare ≤ next.start.spare := by
  rw [styled]
  split_ifs
  · exact Int.le_refl _
  · exact next.start.spare_nonneg

theorem Following.spare_unstyled_le (next : Following) :
    next.unstyled.start.spare ≤ next.start.spare := by
  rw [unstyled]
  split_ifs
  · exact Int.le_refl _
  · exact Int.le_refl _
  · exact next.start.spare_nonneg

/-- A letter that shares its column with a sign before it has one. -/
theorem one_le_charWidth_of_coeng (h : inRanges coengRanges c) : 1 ≤ (charWidth? c).getD 1 := by
  have hbounds : 0x1780 ≤ c.toNat ∧ c.toNat ≤ 0x17af := by
    simp [inRanges, coengRanges] at h
    omega
  have hall : ∀ k < 0x30, inRanges coengRanges (Char.ofNat (0x1780 + k)) →
      1 ≤ (charWidth? (Char.ofNat (0x1780 + k))).getD 1 := by
    decide +kernel
  have hc := hall (c.toNat - 0x1780) (by omega)
  rw [Nat.add_sub_cancel' hbounds.1, Char.ofNat_toNat] at hc
  exact hc h

theorem spare_startOf_le (c : Char) : (startOf c).spare ≤ (charWidth? c).getD 1 := by
  have hnone (start : Start) (h : start.spare = 0) : start.spare ≤ (charWidth? c).getD 1 :=
    h ▸ Int.natCast_nonneg _
  have hcoeng (h : inRanges coengRanges c) : Start.coengLetter.spare ≤ (charWidth? c).getD 1 :=
    Int.ofNat_le.mpr (one_le_charWidth_of_coeng h)
  unfold startOf
  extract_lets n
  -- `split` is slow where so many branches are nested.
  repeat'
    refine iteInduction (motive := fun start : Start => start.spare ≤ (charWidth? c).getD 1)
      (fun _ => ?_) fun _ => ?_
  any_goals exact hnone _ rfl
  exact hcoeng ‹_›

theorem spare_le_of_ligatureWidth? (h : ligatureWidth? c start = some (added, after)) :
    after.spare ≤ added + start.spare := by
  unfold ligatureWidth? at h
  split at h
  all_goals first | cases h | skip
  all_goals split_ifs at h <;> cases h <;> simp [Start.spare]

theorem spare_le_of_emojiWidth? (h : emojiWidth? c start = some (added, after)) :
    after.spare ≤ added + start.spare := by
  unfold emojiWidth? at h
  split at h
  all_goals first | cases h | skip
  all_goals split_ifs at h <;> cases h <;> simp [Start.spare]

theorem spare_widthBeforeStart_le (c : Char) (start : Start) :
    (widthBeforeStart c start).2.start.spare ≤ (widthBeforeStart c start).1 + start.spare := by
  unfold widthBeforeStart
  extract_lets isMark
  split_ifs
  · have hjoined := start.spare_joined
    show start.joined.spare ≤ 0 + start.spare
    omega
  · show start.spare ≤ 0 + start.spare
    omega
  · cases hligature : ligatureWidth? c start with
    | some joined => exact spare_le_of_ligatureWidth? hligature
    | none =>
      cases hemoji : emojiWidth? c start with
      | some joined => exact spare_le_of_emojiWidth? hemoji
      | none =>
        have halone := spare_startOf_le c
        have hspare := start.spare_nonneg
        show (startOf c).spare ≤ (charWidth? c).getD 1 + start.spare
        omega

/-- A character takes no more columns back than what is behind it has to spare. -/
theorem spare_widthBefore_le (c : Char) (next : Following) :
    (widthBefore c next).2.start.spare ≤ (widthBefore c next).1 + next.start.spare := by
  have hunstyled := next.spare_unstyled_le
  have hsolid (columns : Int) (start : Start) (hstart : start.spare = 0) (hcolumns : 0 ≤ columns) :
      start.spare ≤ columns + next.start.spare := by
    have hspare := next.start.spare_nonneg
    omega
  have hselector (behind : Following) (hbehind : behind.start.spare ≤ next.start.spare)
      (style : Style) : (behind.styled style).start.spare ≤ 0 + next.start.spare := by
    have hstyled := behind.spare_styled_le style
    omega
  unfold widthBefore
  extract_lets n
  split_ifs
  any_goals exact hsolid _ _ rfl (by decide)
  · exact hselector _ hunstyled .emoji
  · exact hselector _ (Int.le_refl _) .emoji
  · exact hselector _ hunstyled .text
  · exact hselector _ (Int.le_refl _) .text
  · exact hselector _ hunstyled .full
  · exact Int.le_trans (spare_widthBeforeStart_le c _) (Int.add_le_add_left hunstyled _)

/-- What a text has to spare is part of its columns. -/
theorem spare_le_measure (text : List Char) : (measure text).2.start.spare ≤ (measure text).1 := by
  induction text with
  | nil => exact Int.le_refl _
  | cons c text ih =>
    have hstep := spare_widthBefore_le c (measure text).2
    simp only [measure]
    omega

theorem measure_nonneg (text : List Char) : 0 ≤ (measure text).1 :=
  Int.le_trans (measure text).2.start.spare_nonneg (spare_le_measure text)

/-- A character with a column of its own, whatever is behind it, that nothing before it joins. -/
def StandsAlone (c : Char) : Prop :=
  ∀ next, widthBefore c next = (1, .plain)

theorem standsAlone_of_ascii (h : c.toNat < 0x80) (hn : c ≠ '\n') (hr : c ≠ '\r')
    (hemoji : takesEmojiStyle c = false) : StandsAlone c := by
  intro next
  have hlow : c.toNat ≤ 0xa0 := by omega
  simp only [widthBefore, hemoji, Bool.false_eq_true, and_false, if_false, hlow, if_true, hn, hr,
    false_and]

theorem StandsAlone.ne_lineFeed (h : StandsAlone c) : c ≠ '\n' := by
  rintro rfl
  exact absurd (h .plain) (by decide)

theorem measure_append (hc : StandsAlone c) (before after : List Char) :
    measure (before ++ c :: after) =
      ((measure before).1 + (1 + (measure after).1), (measure before).2) := by
  induction before with
  | nil =>
    have hfirst := hc (measure after).2
    simp only [List.nil_append, measure, hfirst, Int.zero_add]
  | cons b before ih => simp only [List.cons_append, measure, ih, Int.add_assoc]

theorem width_append (hc : StandsAlone c) (before after : List Char) :
    width (before ++ c :: after) = width before + 1 + width after := by
  have hbefore := measure_nonneg before
  have hafter := measure_nonneg after
  rw [width, width, width, measure_append hc]
  dsimp only
  omega

end Phrasebook.Text
