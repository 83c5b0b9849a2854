import Phrasebook.Script.Scanner.Mode
import Phrasebook.Text.Blank

/-!
What stands between tokens: blanks, comments, and the markers of an unfinished merge.
-/
namespace Phrasebook.Script

def isSpace (c : Char) : Bool :=
  let n := c.toNat
  n = 9 || n = 11 || n = 12 || n = 0x20 || n = 0x85 || n = 0xa0 || n = 0xfeff || n = 0x1680 ||
    (0x2000 ≤ n && n ≤ 0x200b) || n = 0x202f || n = 0x205f || n = 0x3000

def Source.closeComment? (src : Source) (i : Nat) : Option Nat :=
  if i + 1 < src.size then
    if src.hasAt i "*/" then some (i + 2) else Source.closeComment? src (i + 1)
  else none
termination_by src.size - i

def Source.lineEnd (src : Source) (i : Nat) : Nat :=
  src.skip (!Text.isLineBreak ·) i

/-- What has been passed over on the way to a token. `start` is where the first markup comment or
merge marker stands; the token is reported there. -/
structure Gap where
  stop : Nat
  newline : Bool
  start : Option Nat
  faults : List Nat

/-- Passes over blanks and comments. A comment that is not closed ends with the script, which is
where it is reported. -/
def Source.skipBlanks (src : Source) : (fuel : Nat) → Gap → Gap
  | 0, gap => gap
  | fuel + 1, gap =>
    let i := gap.stop
    match src[i]? with
    | none => gap
    | some c =>
      if isSpace c then src.skipBlanks fuel { gap with stop := i + 1 }
      else if Text.isLineBreak c then
        src.skipBlanks fuel { gap with stop := i + 1, newline := true }
      else if src.hasAt i "//" then src.skipBlanks fuel { gap with stop := src.lineEnd i }
      else if src.hasAt i "/*" then
        match src.closeComment? (i + 2) with
        | none =>
          let broken := (src.slice i src.size).any Text.isLineBreak
          { gap with
            stop := src.size
            newline := gap.newline || broken
            faults := gap.faults ++ [src.size] }
        | some stop =>
          let broken := (src.slice i stop).any Text.isLineBreak
          src.skipBlanks fuel { gap with stop, newline := gap.newline || broken }
      else gap

theorem Source.start_skipBlanks (src : Source) (fuel : Nat) (gap : Gap) :
    (src.skipBlanks fuel gap).start = gap.start := by
  fun_induction Source.skipBlanks src fuel gap <;> first | rfl | assumption

/-- Whether the rest of a line is no part of the script, by what stands at its beginning. -/
def Source.startsRemark (src : Source) (mode : Mode) (newline : Bool) (i : Nat) : Bool :=
  (!mode.inType && src.hasAt i "<!--") || (newline && src.hasAt i "-->")

/-- Whether a merge marker stands at the beginning of a line. -/
def Source.startsMarker (src : Source) (mode : Mode) (newline : Bool) (i : Nat) : Bool :=
  newline && (src.hasAt i "=======" ||
    (!mode.inType && (src.hasAt i "<<<<<<< " || src.hasAt i ">>>>>>> ")))

theorem Source.showsOpening_of_startsRemark {src : Source} {mode : Mode} {newline : Bool}
    {i : Nat} (h : src.startsRemark mode newline i) : src.ShowsOpening i := by
  simp only [Source.startsRemark, Bool.or_eq_true, Bool.and_eq_true] at h
  rcases h with ⟨-, h⟩ | ⟨-, h⟩ <;>
    exact ⟨_, Source.getElem?_of_hasAt h rfl, by decide⟩

theorem Source.showsOpening_of_startsMarker {src : Source} {mode : Mode} {newline : Bool}
    {i : Nat} (h : src.startsMarker mode newline i) : src.ShowsOpening i := by
  simp only [Source.startsMarker, Bool.or_eq_true, Bool.and_eq_true] at h
  rcases h with ⟨-, h | ⟨-, h | h⟩⟩ <;>
    exact ⟨_, Source.getElem?_of_hasAt h rfl, by decide⟩

/-- Passes over all that is no token. -/
def Source.skipGap (src : Source) (mode : Mode) : (fuel : Nat) → Gap → Gap
  | 0, gap => gap
  | fuel + 1, gap =>
    let gap := src.skipBlanks (src.size + 1) gap
    let i := gap.stop
    let start := gap.start.or (some i)
    if src.startsRemark mode gap.newline i then
      let rest := src.skipBlanks (src.size + 1) { gap with stop := src.lineEnd i, start }
      src.skipGap mode fuel { rest with faults := rest.faults ++ mode.strictFault i }
    else if src.startsMarker mode gap.newline i then
      src.skipGap mode fuel
        { gap with stop := src.lineEnd i, start, faults := gap.faults ++ [i] }
    else gap

def Gap.Marked (src : Source) (gap : Gap) : Prop :=
  ∀ i, gap.start = some i → src.ShowsOpening i

theorem Gap.Marked.of_or {src : Source} {gap next : Gap} {i : Nat} (h : gap.Marked src)
    (hi : src.ShowsOpening i) (hnext : next.start = gap.start.or (some i)) :
    next.Marked src := by
  intro j hj
  rw [hnext] at hj
  rcases Option.or_eq_some_iff.mp hj with hj | ⟨-, hj⟩
  · exact h j hj
  · cases hj
    exact hi

theorem Gap.Marked.skipBlanks {src : Source} {gap : Gap} (h : gap.Marked src) (fuel : Nat) :
    (src.skipBlanks fuel gap).Marked src := by
  intro i hi
  rw [src.start_skipBlanks] at hi
  exact h i hi

theorem Gap.Marked.skipGap {src : Source} {gap : Gap} (h : gap.Marked src) (mode : Mode)
    (fuel : Nat) : (src.skipGap mode fuel gap).Marked src := by
  fun_induction Source.skipGap src mode fuel gap with
  | case1 => exact h
  | case2 fuel gap blanks i start hremark rest ih =>
    exact ih ((h.skipBlanks _).of_or (Source.showsOpening_of_startsRemark hremark)
      (src.start_skipBlanks _ _))
  | case3 fuel gap blanks i start _ hmarker ih =>
    exact ih ((h.skipBlanks _).of_or (Source.showsOpening_of_startsMarker hmarker) rfl)
  | case4 fuel gap blanks i => exact h.skipBlanks _

end Phrasebook.Script
