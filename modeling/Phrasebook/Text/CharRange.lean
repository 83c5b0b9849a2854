/-!
Sets of characters as ranges of code points, and case mappings as runs of them.
-/
namespace Phrasebook.Text

def inRanges (ranges : List (Nat × Nat)) (c : Char) : Bool :=
  ranges.any fun (first, last) => first ≤ c.toNat && c.toNat ≤ last

structure CaseRun where
  first : Nat
  last : Nat
  stride : Nat
  offset : Int
  deriving Repr

def CaseRun.covers (run : CaseRun) (c : Char) : Bool :=
  run.first ≤ c.toNat && c.toNat ≤ run.last && (c.toNat - run.first) % run.stride = 0

/-- The image of a character under the runs; characters outside of them stand for themselves. -/
def mapCase (runs : List CaseRun) (c : Char) : Char :=
  match runs.find? (·.covers c) with
  | some run => Char.ofNat (c.toNat + run.offset).toNat
  | none => c

end Phrasebook.Text
