/-!
File paths written with slashes. Empty parts and inner `.` parts are no components, but the text of
a path is kept as it was written.
-/
namespace Phrasebook.FilePath

inductive Component where
  | root
  | current
  | parent
  | name (text : String)
  deriving DecidableEq, Repr

structure Part where
  component : Component
  start : Nat
  stop : Nat
  deriving DecidableEq, Repr

/-- The maximal runs of characters other than slashes, with their positions. -/
def runs : List Char → (position : Nat) → List (List Char × Nat)
  | [], _ => []
  | '/' :: cs, i => runs cs (i + 1)
  | c :: cs, i =>
    match cs, runs cs (i + 1) with
    | d :: _, (run, j) :: more =>
      if d = '/' then ([c], i) :: (run, j) :: more else (c :: run, i) :: more
    | _, more => ([c], i) :: more

/-- A run as a component. A single dot counts only at the front of a relative path. -/
def part? (run : List Char) (position : Nat) : Option Part :=
  let stop := position + run.length
  if run = ['.'] then if position = 0 then some ⟨.current, 0, stop⟩ else none
  else if run = ['.', '.'] then some ⟨.parent, position, stop⟩
  else some ⟨.name (String.ofList run), position, stop⟩

def isAbsolute (path : String) : Bool :=
  path.toList.head? = some '/'

/-- Whether a path ends with a slash or with a dot behind one, so that only a directory can bear it. -/
def endsInside (path : String) : Bool :=
  match path.toList.reverse with
  | '/' :: _ | '.' :: '/' :: _ => true
  | _ => false

def parts (path : String) : List Part :=
  let named := (runs path.toList 0).filterMap fun (run, i) => part? run i
  if isAbsolute path then ⟨.root, 0, 1⟩ :: named else named

def components (path : String) : List Component :=
  (parts path).map Part.component

def slice (path : String) (start stop : Nat) : String :=
  String.ofList ((path.toList.take stop).drop start)

def fileName? (path : String) : Option String :=
  match (components path).getLast? with
  | some (.name text) => some text
  | _ => none

/-- A file name cut at its last dot. A leading dot starts no extension. -/
def splitExtension (name : String) : String × Option String :=
  let backward := name.toList.reverse
  let extension := backward.takeWhile (· ≠ '.')
  match backward.drop extension.length with
  | _ :: stem =>
    if stem.isEmpty then (name, none)
    else (String.ofList stem.reverse, some (String.ofList extension.reverse))
  | [] => (name, none)

def fileStem? (path : String) : Option String :=
  (fileName? path).map fun name => (splitExtension name).1

def extension? (path : String) : Option String :=
  (fileName? path).bind fun name => (splitExtension name).2

/-- The path without its last component. A root or an empty path has no parent. -/
def parent? (path : String) : Option String :=
  match (parts path).reverse with
  | [] => none
  | ⟨.root, _, _⟩ :: _ => none
  | _ :: [] => some ""
  | _ :: before :: _ => some (slice path 0 before.stop)

/-- The path, its parent, the parent of that, and so on. -/
def ancestors (path : String) : List String :=
  (parts path).reverse.map fun part => slice path 0 part.stop

/-- `path` seen from `base`. An absolute path stands for itself. -/
def join (base path : String) : String :=
  if isAbsolute path then path
  else if base.isEmpty ∨ base.toList.getLast? = some '/' then base ++ path
  else base ++ "/" ++ path

def dropCurrent (path : String) : String :=
  match parts path with
  | ⟨.current, _, _⟩ :: rest =>
    match rest.head?, rest.getLast? with
    | some first, some last => slice path first.start last.stop
    | _, _ => ""
  | _ => path

def isCurrent (path : String) : Bool :=
  (components path).all (· = .current)

end Phrasebook.FilePath
