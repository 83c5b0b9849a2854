import Phrasebook.Script.Scanner.Escape
import Phrasebook.Script.Word

/-!
Names and keywords.
-/
namespace Phrasebook.Script

/-- A name: its characters in reverse, where it ends, whether it has escapes, the places of its
harmless faults, and the place of the escape that makes it no name. -/
structure NameRun where
  name : List Char
  stop : Nat
  escaped : Bool
  faults : List Nat
  bad : Option Nat

/-- The code point of an escape in a name. A pair of surrogates counts as one. -/
def Source.readNameEscape (src : Source) (i : Nat) : HexRun :=
  let run := src.readCodePoint i
  match run.value with
  | none => run
  | some high =>
    if 0xd800 ≤ high ∧ high < 0xdc00 ∧ src.hasAt run.stop "\\u" then
      let next := src.readCodePoint (run.stop + 2)
      match next.value with
      | some low =>
        if 0xdc00 ≤ low ∧ low < 0xe000 then
          ⟨some (0x10000 + (high - 0xd800) * 0x400 + (low - 0xdc00)), next.stop,
            run.faults ++ next.faults⟩
        else run
      | none => run
    else run

/-- Whether a code point may stand in a name, as its first character or a later one. -/
def acceptsNamePart (first : Bool) (value : Nat) : Bool :=
  let c := Char.ofNat value
  !(0xd800 ≤ value && value < 0xe000) &&
    if first then Text.isIdentifierStart c else Text.isIdentifierPart c

/-- Reads the characters of a name. An escape stands for the character it names; one that no name
has is a harmless fault. -/
def Source.readNameFrom (src : Source) : (fuel : Nat) → NameRun → NameRun
  | 0, run => run
  | fuel + 1, run =>
    let i := run.stop
    match src[i]? with
    | some '\\' =>
      if src[i + 1]? ≠ some 'u' then { run with stop := i + 1, bad := some i }
      else
        let code := src.readNameEscape (i + 2)
        match code.value with
        | none =>
          { run with stop := code.stop, faults := run.faults ++ code.faults, bad := some i }
        | some value =>
          let misfit := if acceptsNamePart run.name.isEmpty value then [] else [i]
          src.readNameFrom fuel
            { run with
              name := Char.ofNat value :: run.name
              stop := code.stop
              escaped := true
              faults := run.faults ++ code.faults ++ misfit }
    | some c =>
      if acceptsNamePart run.name.isEmpty c.toNat then
        src.readNameFrom fuel { run with name := c :: run.name, stop := i + 1 }
      else run
    | none => run

/-- Reads a name. A word that is reserved and has an escape behind its first letter is no token; one
that begins with an escape is no keyword. -/
def Source.readName (src : Source) (mode : Mode) (start : Nat) : Reading :=
  let run := src.readNameFrom (src.size + 1 - start) ⟨[], start, false, [], none⟩
  let text := String.ofList run.name.reverse
  let opened := src[start]? = some '\\'
  match run.bad with
  | some position => .bad position run.stop run.faults
  | none =>
    if run.escaped ∧ !opened ∧ isReserved mode.strict text then .bad start run.stop run.faults
    else ⟨.word text opened, run.stop, run.faults⟩

/-- What has been read of a name stays in it. -/
theorem Source.suffix_readNameFrom (src : Source) (fuel : Nat) (run : NameRun) :
    run.name <:+ (src.readNameFrom fuel run).name := by
  fun_induction Source.readNameFrom src fuel run with
  | case4 => exact (List.suffix_cons _ _).trans (by assumption)
  | case5 => exact (List.suffix_cons _ _).trans (by assumption)
  | _ => exact List.suffix_rfl

/-- A name begins with the character that stands where it starts, or with an escape for it. -/
theorem Source.opens_readNameFrom (src : Source) (fuel start : Nat) :
    src.Opens start (String.ofList
      (src.readNameFrom fuel ⟨[], start, false, [], none⟩).name.reverse) := by
  intro c hc
  rw [String.toList_ofList, List.head?_reverse] at hc
  cases fuel with
  | zero => cases hc
  | succ fuel =>
    cases hfound : src[start]? with
    | none =>
      simp only [Source.readNameFrom, hfound] at hc
      cases hc
    | some found =>
      refine ⟨found, rfl, ?_⟩
      by_cases hescape : found = '\\'
      · exact .inr (by rw [hescape]; rfl)
      · left
        simp only [Source.readNameFrom, hfound] at hc
        split at hc
        · obtain ⟨first, hfirst⟩ :=
            src.suffix_readNameFrom fuel ⟨[found], start + 1, false, [], none⟩
          rw [← hfirst, List.getLast?_append, List.getLast?_singleton, Option.some_or] at hc
          exact Option.some.inj hc
        · cases hc

theorem Source.opens_readName (src : Source) (mode : Mode) (start : Nat) :
    (src.readName mode start).token.Opens src start := by
  rw [Source.readName]
  split
  · trivial
  · split
    · trivial
    · exact src.opens_readNameFrom _ start

end Phrasebook.Script
