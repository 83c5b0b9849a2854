import Phrasebook.Files
import Phrasebook.Generate
import Phrasebook.Glob
import Phrasebook.Style
import Phrasebook.Text.Lowercase

/-!
Searching directories for source files. Directories are visited depth first, and the names in them
in alphabetical order without regard to case. Only links that are themselves to be searched are
followed.
-/
namespace Phrasebook.SourceScan

/-- Whether one name comes before another. Names that differ only in case stay as they are. -/
def nameLe (a b : String) : Bool :=
  Text.lowercase a ≤ Text.lowercase b

/-- Siblings in the order in which they are visited. They may be anything that has a name: `name`
says how it reads, with a replacement character for what is no text. -/
def visitOrder {α : Type} (name : α → String) (siblings : List α) : List α :=
  siblings.mergeSort fun a b => nameLe (name a) (name b)

def isIgnored (patterns : List (List Glob.Token)) (path : String) : Bool :=
  patterns.any (Glob.isMatch · path.toList)

/-- Extracts the calls of one file. Files of other kinds have none. -/
def extract (functions : List String) (path code : String) : Except ScanFailure Extraction :=
  match Dialect.ofPath? path with
  | none => .ok ⟨path, [], []⟩
  | some dialect =>
    match Extraction.ofFile functions dialect path code with
    | .ok extraction => .ok extraction
    | .error failure => .error (.syntaxFault failure)

/-- What a search comes to: the source files in the order they were visited, and the number of
directories that could not be listed. -/
@[ext]
structure Found where
  files : List String
  skipped : Nat
  deriving DecidableEq, Repr

namespace Found

def nothing : Found := ⟨[], 0⟩

def ofFile (path : String) : Found :=
  ⟨if (Dialect.ofPath? path).isSome then [path] else [], 0⟩

def concat (parts : List Found) : Found :=
  ⟨parts.flatMap files, (parts.map skipped).foldr (· + ·) 0⟩

end Found

/-- A walk goes no deeper than this. Every directory adds to the length of the path, so the paths
below are too long for a directory to be listed. -/
def maxDepth : Nat := 4096

section

variable {m : Type → Type} [Monad m] [Files m]

def skip (color verbose : Bool) (path : String) (cause : FileError) : m Found := do
  if verbose then
    let label := paint color .warning "warning:"
    Files.remark
      s!"{label} Cannot access path: IO error for operation on {path}: {cause.message}"
  return ⟨[], 1⟩

/-- Visits a path. What is in a directory is found by `inside`. -/
def visit (patterns : List (List Glob.Token)) (inside : String → m Found) (path : String)
    (kind : FileKind) : m Found := do
  if isIgnored patterns path then return .nothing
  match kind with
  | .directory => inside path
  | .file => return .ofFile path
  | .link | .other => return .nothing

def walk (color verbose : Bool) (patterns : List (List Glob.Token)) :
    (depth : Nat) → String → m Found
  | 0, path => skip color verbose path .nameTooLong
  | depth + 1, path => do
    match ← Files.list path with
    | .error cause => skip color verbose path cause
    | .ok siblings =>
      let parts ← (visitOrder Prod.fst siblings).mapM fun (name, kind) =>
        visit patterns (walk color verbose patterns depth) (FilePath.join path name) kind
      return .concat parts

/-- The source files below one of the paths to search. A link to a directory is followed, even
where patterns match the link itself. -/
def filesBelow (color verbose : Bool) (patterns : List (List Glob.Token)) (root : String) :
    m Found := do
  if ← Files.present root then
    match ← Files.ownKind root with
    | .error cause => skip color verbose root cause
    | .ok .link =>
      if ← Files.isDirectory root then walk color verbose patterns maxDepth root
      else return .nothing
    | .ok kind => visit patterns (walk color verbose patterns maxDepth) root kind
  else
    if verbose then
      let label := paint color .warning "warning:"
      Files.remark s!"{label} Search path does not exist: {root}"
    return .nothing

def files (color verbose : Bool) (patterns : List (List Glob.Token)) (roots : List String) :
    m Found := do
  return .concat (← roots.mapM (filesBelow color verbose patterns))

/-- Reads a file and extracts its calls. Bytes that are no text are replaced. -/
def extractFile (functions : List String) (path : String) : m (Except ScanFailure Extraction) := do
  match ← Files.read path with
  | .error e => return .error (.unreadable path e.message)
  | .ok bytes => return extract functions path (Text.decodeLossy bytes)

/-- Tells how many directories could not be listed, if any. -/
def remarkSkipped (color verbose : Bool) (skipped : Nat) : m Unit := do
  if 0 < skipped then
    let label := paint color .warning "warning:"
    let hint := if verbose then "" else " (use -v for details)"
    Files.remark s!"{label} {skipped} path(s) skipped due to access errors{hint}"

def run (color verbose : Bool) (functions : List String) (patterns : List (List Glob.Token))
    (roots : List String) : m Scan := do
  let found ← files color verbose patterns roots
  remarkSkipped color verbose found.skipped
  found.files.mapM (extractFile functions)

end
end Phrasebook.SourceScan
