import Phrasebook.Assoc
import Phrasebook.Extraction

/-!
Which files use which keys.
-/
namespace Phrasebook

/-- The keys in the order they are first seen, each with the file of every call. -/
structure UsageIndex where
  usages : List (String × List String)
  deriving DecidableEq, Repr

namespace UsageIndex

def empty : UsageIndex := ⟨[]⟩

def addCall (index : UsageIndex) (file key : String) : UsageIndex :=
  ⟨Assoc.update key (fun files => files.getD [] ++ [file]) index.usages⟩

def add (index : UsageIndex) (e : Extraction) : UsageIndex :=
  e.calls.foldl (fun index call => index.addCall e.file call.key) index

def ofExtractions (extractions : List Extraction) : UsageIndex :=
  extractions.foldl add empty

def size (index : UsageIndex) : Nat := index.usages.length

/-- The files that call a key, once per call. -/
def consumers? (index : UsageIndex) (key : String) : Option (List String) :=
  index.usages.lookup key

def byCount (index : UsageIndex) : List (String × Nat) :=
  (index.usages.map fun (key, files) => (key, files.length)).mergeSort fun a b => b.2 ≤ a.2

end UsageIndex

def displayedLength : Nat := 120

def displayedKey (key : String) : String :=
  String.ofList (key.toList.take displayedLength)

end Phrasebook
