import Phrasebook.Extraction
import Phrasebook.KeyTable
import Phrasebook.Validation

/-!
Rebuilding the canonical tree from a scan of the source files. Keys keep their English texts, new
keys are seeded, and keys that nothing refers to are dropped.
-/
namespace Phrasebook

structure InvalidCall where
  site : Site
  key : String
  fault : CallFault
  deriving DecidableEq, Repr

def InvalidCall.message (e : InvalidCall) : String :=
  s!"{e.site.file}:{e.site.line} {e.key}: {e.fault.message}"

inductive ScanFailure where
  | unreadable (file cause : String)
  | syntaxFault (failure : ParseFailure)
  deriving DecidableEq, Repr

/-- The result of scanning files, in the order they were visited. -/
abbrev Scan := List (Except ScanFailure Extraction)

inductive GenerateError where
  | scan (failure : ScanFailure)
  | invalidCall (error : InvalidCall)
  | unplaced (error : Unplaced)
  deriving DecidableEq, Repr

/-- The new tree with the number of distinct keys of each file and of all files, and the harmless
faults by file. -/
structure Generated where
  tree : Tree
  files : List (String × Nat)
  keyCount : Nat
  recovered : List (String × Recovered)
  deriving DecidableEq, Repr

/-- Checks one call against the old tree. Calls without an English text pass. -/
def Call.checkIn (old : Tree) (separator : String) (call : Call) : Except InvalidCall Unit :=
  if call.isChecked then
    match englishText? old separator call.key with
    | none => .ok ()
    | some english =>
      match call.check english with
      | .ok () => .ok ()
      | .error fault => .error ⟨call.site, call.key, fault⟩
  else .ok ()

namespace Extraction

def check (old : Tree) (separator : String) (e : Extraction) : Except InvalidCall Unit :=
  e.calls.forM (Call.checkIn old separator)

def sightings (e : Extraction) : List (String × Bool) :=
  e.calls.map fun call => (call.key, call.isPlural)

end Extraction

/-- The extractions of a scan, up to the first failure or the first invalid call. -/
def acceptScan (old : Tree) (separator : String) : Scan → Except GenerateError (List Extraction)
  | [] => .ok []
  | .error failure :: _ => .error (.scan failure)
  | .ok extraction :: rest =>
    match extraction.check old separator with
    | .error e => .error (.invalidCall e)
    | .ok () => (acceptScan old separator rest).map (extraction :: ·)

def KeyTable.ofExtractions (extractions : List Extraction) : KeyTable :=
  KeyTable.empty.recordAll (extractions.flatMap Extraction.sightings)

/-- Rebuilds the canonical tree. Keys that cannot be placed are reported last. -/
def generate (old : Tree) (scan : Scan) (separator : String) : Except GenerateError Generated :=
  match acceptScan old separator scan with
  | .error e => .error e
  | .ok extractions =>
    let table := KeyTable.ofExtractions extractions
    match table.build old separator with
    | .error e => .error (.unplaced e)
    | .ok tree =>
      .ok
        { tree
          files := extractions.map fun e => (e.file, e.keys.length)
          keyCount := table.size
          recovered := extractions.flatMap fun e => e.recovered.map (e.file, ·) }

end Phrasebook
