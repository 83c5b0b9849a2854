import Phrasebook.Assoc
import Phrasebook.FilePath
import Phrasebook.Files

/-!
A file system in memory: directories, files with their contents, and symbolic links, by absolute
place. Each file stands in one place, so there are no hard links, and all names are texts.
-/
namespace Phrasebook

/-- The names that lead from the root to a file, a directory or a link. -/
abbrev Place := List String

inductive DiskEntry where
  | directory
  | file (bytes : Text.Bytes)
  /-- A symbolic link, with the path that is written in it. -/
  | link (target : String)
  deriving DecidableEq, Repr

def DiskEntry.kind : DiskEntry → FileKind
  | .directory => .directory
  | .file _ => .file
  | .link _ => .link

structure Disk where
  current : Place
  /-- What there is, but for the root. Directories list their names in this order, and it has no
  other meaning. -/
  entries : List (Place × DiskEntry)
  deriving DecidableEq, Repr

namespace Disk

/-- What stands in a place. The root is always a directory. -/
def item? (disk : Disk) (place : Place) : Option DiskEntry :=
  if place.isEmpty then some .directory else disk.entries.lookup place

def hasDirectory (disk : Disk) (place : Place) : Bool :=
  disk.item? place = some .directory

def file? (disk : Disk) (place : Place) : Option Text.Bytes :=
  match disk.item? place with
  | some (.file bytes) => some bytes
  | _ => none

def hasFile (disk : Disk) (place : Place) : Bool :=
  (disk.file? place).isSome

def link? (disk : Disk) (place : Place) : Option String :=
  match disk.item? place with
  | some (.link target) => some target
  | _ => none

def files (disk : Disk) : List (Place × Text.Bytes) :=
  disk.entries.filterMap fun (place, entry) =>
    match entry with
    | .file bytes => some (place, bytes)
    | .directory | .link _ => none

/-- What goes wrong when a place is taken for a directory. -/
def stepError (disk : Disk) (place : Place) : FileError :=
  if disk.hasFile place then .notDirectory else .notFound

/-- The steps of a path that is written in a link. One that ends inside of a directory leads to no
file. -/
def targetSteps (target : String) : List FilePath.Component :=
  FilePath.components target ++ if FilePath.endsInside target then [.current] else []

/-- Follows components from a place on. All places but the last have to be directories. At a link,
`redirect` goes on in the directory of the link with the steps that are left. -/
def followWith (disk : Disk)
    (redirect : List FilePath.Component → Place → Except FileError Place) :
    List FilePath.Component → Place → Except FileError Place
  | [], place => .ok place
  | component :: rest, place =>
    if disk.hasDirectory place then
      match component with
      | .root => disk.followWith redirect rest []
      | .current => disk.followWith redirect rest place
      | .parent => disk.followWith redirect rest place.dropLast
      | .name text =>
        match disk.link? (place ++ [text]) with
        | some target => redirect (targetSteps target ++ rest) place
        | none => disk.followWith redirect rest (place ++ [text])
    else .error (disk.stepError place)

def follow (disk : Disk) :
    (links : Nat) → List FilePath.Component → Place → Except FileError Place
  | 0 => disk.followWith fun _ _ => .error .tooManyLinks
  | links + 1 => disk.followWith (disk.follow links)

def maxLinks : Nat := 40

def maxPathSize : Nat := 4096

/-- The place that a path leads to, whether anything is there or not. A path that ends inside of a
directory names no file. -/
def locate (disk : Disk) (path : String) : Except FileError Place :=
  if path.isEmpty then .error .notFound
  else if maxPathSize ≤ path.utf8ByteSize then .error .nameTooLong
  else
    match disk.follow maxLinks (FilePath.components path) disk.current with
    | .error e => .error e
    | .ok place =>
      if FilePath.endsInside path ∧ disk.hasFile place then .error .notDirectory else .ok place

def nameIn? (place inner : Place) : Option String :=
  if !inner.isEmpty ∧ inner.dropLast = place then inner.getLast? else none

def listing (disk : Disk) (place : Place) : List (String × FileKind) :=
  disk.entries.filterMap fun (inner, entry) => (nameIn? place inner).map (·, entry.kind)

def canonical (disk : Disk) (path : String) : Except FileError String :=
  match disk.locate path with
  | .error e => .error e
  | .ok place =>
    if (disk.item? place).isSome then .ok ("/" ++ "/".intercalate place) else .error .notFound

def kind? (disk : Disk) (path : String) : Option FileKind :=
  match disk.locate path with
  | .ok place => (disk.item? place).map DiskEntry.kind
  | .error _ => none

def isLink (disk : Disk) (path : String) : Bool :=
  match (FilePath.components path).reverse with
  | .name text :: outer =>
    match disk.follow maxLinks outer.reverse disk.current with
    | .ok place => !FilePath.endsInside path && (disk.link? (place ++ [text])).isSome
    | .error _ => false
  | _ => false

def ownKind (disk : Disk) (path : String) : Except FileError FileKind :=
  if path.utf8ByteSize < maxPathSize ∧ disk.isLink path then .ok .link
  else
    match disk.locate path with
    | .error e => .error e
    | .ok place =>
      match disk.item? place with
      | some entry => .ok entry.kind
      | none => .error .notFound

def isFile (disk : Disk) (path : String) : Bool :=
  disk.kind? path = some .file

def isDirectory (disk : Disk) (path : String) : Bool :=
  disk.kind? path = some .directory

def list (disk : Disk) (path : String) : Except FileError (List (String × FileKind)) :=
  match disk.locate path with
  | .error e => .error e
  | .ok place =>
    if disk.hasDirectory place then .ok (disk.listing place) else .error (disk.stepError place)

def read (disk : Disk) (path : String) : Except FileError Text.Bytes :=
  match disk.locate path with
  | .error e => .error e
  | .ok place =>
    match disk.file? place with
    | some bytes => .ok bytes
    | none => .error (if disk.hasDirectory place then .isDirectory else .notFound)

def put (disk : Disk) (place : Place) (bytes : Text.Bytes) : Disk :=
  { disk with entries := Assoc.put place (.file bytes) disk.entries }

/-- Stores the contents of a file. A file that is new needs a path that ends with its name. -/
def write (disk : Disk) (path : String) (bytes : Text.Bytes) : Except FileError Disk :=
  match disk.locate path with
  | .error e => .error e
  | .ok place =>
    if disk.hasDirectory place ∨ path.toList.getLast? = some '/' then .error .isDirectory
    else if FilePath.endsInside path then .error .notFound
    else .ok (disk.put place bytes)

end Disk

structure Session where
  disk : Disk
  remarks : List String
  deriving DecidableEq, Repr

instance : Files (StateM Session) where
  canonical path := fun s => (s.disk.canonical path, s)
  kind? path := fun s => (s.disk.kind? path, s)
  ownKind path := fun s => (s.disk.ownKind path, s)
  list path := fun s => (s.disk.list path, s)
  read path := fun s => (s.disk.read path, s)
  write path bytes := fun s =>
    match s.disk.write path bytes with
    | .ok disk => (.ok (), { s with disk })
    | .error e => (.error e, s)
  remark text := fun s => ((), { s with remarks := s.remarks ++ [text] })

end Phrasebook
