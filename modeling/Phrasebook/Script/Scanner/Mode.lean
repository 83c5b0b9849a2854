import Phrasebook.Script.Token
import Phrasebook.Script.Source

/-!
What reading a token starts from and what it gives.
-/
namespace Phrasebook.Script

structure Mode where
  /-- The script has types. -/
  typed : Bool
  /-- A type is being read, where `<` and `>` are never parts of longer marks. -/
  inType : Bool
  /-- Faults that only a module has are noted. -/
  strict : Bool

/-- A fault that only a module has. -/
def Mode.strictFault (mode : Mode) (position : Nat) : List Nat :=
  if mode.strict then [position] else []

/-- A token with the position behind it and the places of the harmless faults in it. -/
structure Reading where
  token : Token
  stop : Nat
  faults : List Nat

def Reading.plain (token : Token) (stop : Nat) : Reading := ⟨token, stop, []⟩

/-- Characters up to `stop` that are no token, because of what stands at `position`. -/
def Reading.bad (position stop : Nat) (faults : List Nat) : Reading :=
  ⟨.faulty position, stop, faults⟩

end Phrasebook.Script
