import Phrasebook.Text.Search
import Phrasebook.Tree.Access

/-!
The keys that source files refer to, and the canonical tree built from them.
-/
namespace Phrasebook

/-- Keys in the order they are first seen, each with whether some call of it is plural. -/
structure KeyTable where
  keys : List (String × Bool)
  deriving DecidableEq, Repr

structure Unplaced where
  key : String
  cause : PathError
  deriving DecidableEq, Repr

def Unplaced.message (e : Unplaced) : String :=
  s!"cannot place \"{e.key}\""

def recordedKey (key : String) : String :=
  String.ofList (Text.replace ['\r', '\n'] ['\n'] key.toList)

namespace KeyTable

def empty : KeyTable := ⟨[]⟩

def record (table : KeyTable) (key : String) (plural : Bool) : KeyTable :=
  ⟨Assoc.update (recordedKey key) (fun seen => seen.getD false || plural) table.keys⟩

def recordAll (table : KeyTable) (sightings : List (String × Bool)) : KeyTable :=
  sightings.foldl (fun table (key, plural) => table.record key plural) table

def size (table : KeyTable) : Nat := table.keys.length

/-- The node of a key: what the old tree holds for it, unless that is of no use, or a seed that
repeats the key. -/
def nodeFor (old : Tree) (path : KeyPath) (key : String) (plural : Bool) : Node :=
  let seed : Node := if plural then .plural (.seeded key) else .text key
  match old.get? path with
  | some node => if node.hasValue then node else seed
  | none => seed

def placeKey (old : Tree) (separator : String) (tree : Tree) (entry : String × Bool) :
    Except Unplaced Tree :=
  let (key, plural) := entry
  let path := KeyPath.parse separator key
  match tree.set path (nodeFor old path key plural) with
  | .ok tree => .ok tree
  | .error cause => .error ⟨key, cause⟩

def build (table : KeyTable) (old : Tree) (separator : String) : Except Unplaced Tree :=
  table.keys.foldlM (placeKey old separator) .nil

end KeyTable
end Phrasebook
