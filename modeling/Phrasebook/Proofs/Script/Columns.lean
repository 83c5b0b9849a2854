import Mathlib.Data.List.TakeWhile
import Mathlib.Tactic.Common
import Phrasebook.Script.Calls

/-!
The lines and the display columns of a script. No line break stands between the start of a line and
a position on it, so the column of a position is that of the text in front of it on its line.
-/
namespace Phrasebook.Script

variable {src : Source} {front back : List Char} {s i position : Nat}

theorem Source.skip_eq (src : Source) (p : Char → Bool) (i : Nat) :
    src.skip p i = i + ((src.toList.drop i).takeWhile p).length := by
  fun_induction Source.skip src p i with
  | case1 i hi hp ih =>
    have hdrop : src.toList.drop i = src[i] :: src.toList.drop (i + 1) :=
      List.drop_eq_getElem_cons hi
    rw [ih, hdrop, List.takeWhile_cons_of_pos hp, List.length_cons]
    omega
  | case2 i hi hp =>
    have hdrop : src.toList.drop i = src[i] :: src.toList.drop (i + 1) :=
      List.drop_eq_getElem_cons hi
    rw [hdrop, List.takeWhile_cons_of_neg hp]
    rfl
  | case3 i hi =>
    rw [List.drop_eq_nil_of_le (Nat.not_lt.mp hi)]
    rfl

theorem Source.slice_eq (src : Source) (start stop : Nat) :
    src.slice start stop = (src.toList.drop start).take (stop - start) := by
  rw [slice, Array.toList_extract, List.extract_eq_take_drop]

theorem Source.slice_skip (src : Source) (p : Char → Bool) (i : Nat) :
    src.slice i (src.skip p i) = (src.toList.drop i).takeWhile p := by
  rw [slice_eq, skip_eq, Nat.add_sub_cancel_left]
  exact (List.prefix_iff_eq_take.mp (List.takeWhile_prefix p)).symm

theorem lt_of_mem_lineStarts (cs : List Char) (h : s ∈ lineStarts cs i) : i < s := by
  fun_induction lineStarts cs i with
  | case1 i => cases h
  | case2 cs i ih =>
    rcases List.mem_cons.mp h with rfl | h
    · omega
    · have hlt := ih h
      omega
  | case3 c cs i _ hbreak ih =>
    rcases List.mem_cons.mp h with rfl | h
    · omega
    · have hlt := ih h
      omega
  | case4 c cs i _ hbreak ih =>
    have hlt := ih h
    omega

theorem pairwise_lineStarts (cs : List Char) (i : Nat) : (lineStarts cs i).Pairwise (· < ·) := by
  fun_induction lineStarts cs i with
  | case1 i => exact .nil
  | case2 cs i ih => exact ih.cons fun s hs => lt_of_mem_lineStarts cs hs
  | case3 c cs i _ hbreak ih => exact ih.cons fun s hs => lt_of_mem_lineStarts cs hs
  | case4 c cs i _ hbreak ih => exact ih

/-- A line starts behind every line feed. -/
theorem mem_lineStarts {cs : List Char} {k : Nat} (h : cs[k]? = some '\n') :
    i + k + 1 ∈ lineStarts cs i := by
  fun_induction lineStarts cs i generalizing k with
  | case1 i => cases h
  | case2 cs i ih =>
    match k, h with
    | 1, _ => exact List.mem_cons_self
    | k + 2, h =>
      have hlater := ih (k := k) h
      rw [show i + (k + 2) + 1 = i + 2 + k + 1 by omega]
      exact List.mem_cons_of_mem _ hlater
  | case3 c cs i _ hbreak ih =>
    cases k with
    | zero => exact List.mem_cons_self
    | succ k =>
      have hlater := ih (k := k) h
      rw [show i + (k + 1) + 1 = i + 1 + k + 1 by omega]
      exact List.mem_cons_of_mem _ hlater
  | case4 c cs i _ hbreak ih =>
    cases k with
    | zero => exact absurd (.inl (Option.some.inj h)) hbreak
    | succ k =>
      have hlater := ih (k := k) h
      rw [show i + (k + 1) + 1 = i + 1 + k + 1 by omega]
      exact hlater

theorem Source.pairwise_starts (src : Source) : src.lined.starts.Pairwise (· < ·) :=
  (pairwise_lineStarts src.toList 0).filter _

theorem mem_takeWhile_of_le {starts : List Nat} (hsorted : starts.Pairwise (· < ·))
    (hs : s ∈ starts) (hle : s ≤ position) : s ∈ starts.takeWhile (· ≤ position) := by
  induction starts with
  | nil => cases hs
  | cons first starts ih =>
    obtain ⟨hfirst, hrest⟩ := List.pairwise_cons.mp hsorted
    rcases List.mem_cons.mp hs with rfl | hs
    · rw [List.takeWhile_cons_of_pos (by simpa using hle)]
      exact List.mem_cons_self
    · have hlt := hfirst s hs
      rw [List.takeWhile_cons_of_pos (by simp; omega)]
      exact List.mem_cons_of_mem _ (ih hrest hs)

/-- No line starts between the start of a position's line and the position. -/
theorem Source.le_lineStartAt (hs : s ∈ src.lined.starts) (hle : s ≤ position) :
    s ≤ src.lined.lineStartAt position := by
  have hmem := mem_takeWhile_of_le src.pairwise_starts hs hle
  have hsorted := src.pairwise_starts.sublist (List.takeWhile_sublist (· ≤ position))
  rw [LinedSource.lineStartAt]
  cases hlast : (src.lined.starts.takeWhile (· ≤ position)).getLast? with
  | none =>
    rw [List.getLast?_eq_none_iff.mp hlast] at hmem
    cases hmem
  | some last =>
    obtain ⟨before, heq⟩ := List.getLast?_eq_some_iff.mp hlast
    rw [heq] at hmem hsorted
    rcases List.mem_append.mp hmem with hbefore | hlast
    · exact Nat.le_of_lt ((List.pairwise_append.mp hsorted).2.2 s hbefore last (by simp))
    · exact Nat.le_of_eq (List.mem_singleton.mp hlast)

def columns : List Char → Nat
  | [] => 0
  | c :: text => columnsOf c + columns text

def LinedSource.before (text : LinedSource) (position : Nat) : List Char :=
  (text.textOfLineAt position).toList.take (position - text.lineStartAt position)

theorem columns_append (s t : List Char) : columns (s ++ t) = columns s + columns t := by
  induction s with
  | nil => exact (Nat.zero_add _).symm
  | cons c s ih => rw [List.cons_append, columns, columns, ih, Nat.add_assoc]

theorem columns_of_single {text : List Char} (h : ∀ c ∈ text, columnsOf c = 1) :
    columns text = text.length := by
  induction text with
  | nil => rfl
  | cons c text ih =>
    obtain ⟨hc, htext⟩ := List.forall_mem_cons.mp h
    rw [columns, hc, ih htext, List.length_cons, Nat.add_comm]

theorem foldr_columnsOf (text : List Char) (n : Nat) :
    text.foldr (fun c columns => columnsOf c + columns) n = columns text + n := by
  induction text with
  | nil => exact (Nat.zero_add n).symm
  | cons c text ih => rw [List.foldr_cons, ih, columns, Nat.add_assoc]

/-- A line feed on the line of a position is not in front of it, unless the text ends there. -/
theorem Source.eq_nil_of_lineFeed (hline : src.toList.drop (src.lined.lineStartAt position) =
      front ++ '\n' :: back)
    (hfront : front.length < position - src.lined.lineStartAt position) : back = [] := by
  have hfeed : src.toList[src.lined.lineStartAt position + front.length]? = some '\n' := by
    rw [← List.getElem?_drop, hline, List.getElem?_append_right (Nat.le_refl _), Nat.sub_self]
    rfl
  have hstart := mem_lineStarts (i := 0) hfeed
  rw [Nat.zero_add] at hstart
  by_contra hback
  have hsize := congrArg List.length hline
  have hpos := List.length_pos_iff.mpr hback
  simp only [List.length_drop, List.length_append, List.length_cons, Array.length_toList] at hsize
  have hstarts : src.lined.lineStartAt position + front.length + 1 ∈ src.lined.starts :=
    List.mem_filter.mpr ⟨hstart, decide_eq_true (by omega)⟩
  have hle : _ ≤ src.lined.lineStartAt position := le_lineStartAt hstarts (by omega)
  omega

theorem Source.toList_textOfLineAt (src : Source) (position : Nat) :
    (src.lined.textOfLineAt position).toList =
      (src.toList.drop (src.lined.lineStartAt position)).takeWhile (· ≠ '\n') := by
  rw [LinedSource.textOfLineAt, String.toList_ofList]
  exact src.slice_skip _ _

/-- The display column of a position is that of the text in front of it on its line. -/
theorem Source.columnAt_eq (src : Source) (position : Nat) :
    src.lined.columnAt position = columns (src.lined.before position) + 1 := by
  rw [LinedSource.columnAt, foldr_columnsOf, LinedSource.before, toList_textOfLineAt]
  show columns (src.slice _ position) + 1 = _
  rw [slice_eq]
  generalize hline : src.toList.drop (src.lined.lineStartAt position) = line
  generalize hcount : position - src.lined.lineStartAt position = count
  have hend (front back : List Char) (h : line = front ++ '\n' :: back)
      (hfront : front.length < count) : back = [] :=
    eq_nil_of_lineFeed (hline.trans h) (hcount ▸ hfront)
  by_cases hfeed : '\n' ∈ line
  · obtain ⟨front, back, rfl, hnone⟩ := List.eq_append_cons_of_mem hfeed
    have hkeep : ∀ c ∈ front, decide (c ≠ '\n') := by
      intro c hc
      simpa using ne_of_mem_of_not_mem hc hnone
    rw [List.takeWhile_append_of_pos hkeep, List.takeWhile_cons_of_neg (by simp), List.append_nil]
    rcases Nat.lt_or_ge front.length count with hlt | hge
    · obtain rfl := hend front back rfl hlt
      rw [List.take_of_length_le (by simp; omega), List.take_of_length_le (Nat.le_of_lt hlt),
        columns_append]
      rfl
    · rw [List.take_append_of_le_length hge]
  · have hkeep : ∀ c ∈ line, decide (c ≠ '\n') := by
      intro c hc
      simpa using ne_of_mem_of_not_mem hc hfeed
    rw [List.takeWhile_eq_self_iff.mpr hkeep]

end Phrasebook.Script
