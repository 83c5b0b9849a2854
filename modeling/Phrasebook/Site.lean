/-!
Places in scanned source files.
-/
namespace Phrasebook

/-- A place in a source file, with the text of its line. Lines and columns count from 1. -/
structure Site where
  file : String
  line : Nat
  column : Nat
  sourceLine : String
  deriving DecidableEq, Repr

end Phrasebook
