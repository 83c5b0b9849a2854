import Phrasebook.Text.Utf8

/-!
Access to files. Paths are texts, seen from the current directory.
-/
namespace Phrasebook

inductive FileError where
  | notFound
  | notDirectory
  | isDirectory
  | nameTooLong
  | tooManyLinks
  | notText
  | other (message : String)
  deriving DecidableEq, Repr

def FileError.message : FileError → String
  | .notFound => "No such file or directory (os error 2)"
  | .notDirectory => "Not a directory (os error 20)"
  | .isDirectory => "Is a directory (os error 21)"
  | .nameTooLong => "File name too long (os error 36)"
  | .tooManyLinks => "Too many levels of symbolic links (os error 40)"
  | .notText => "stream did not contain valid UTF-8"
  | .other message => message

inductive FileKind where
  | directory
  | file
  | link
  /-- A pipe, a socket or a device. -/
  | other
  deriving DecidableEq, Repr

/-- What programs can do with files. Paths are followed through links, except by `ownKind` and
`list`, which tell links from what they lead to. -/
class Files (m : Type → Type) where
  /-- The absolute path of something that exists. -/
  canonical : String → m (Except FileError String)
  kind? : String → m (Option FileKind)
  ownKind : String → m (Except FileError FileKind)
  /-- The names in a directory, in an order that is up to the file system. -/
  list : String → m (Except FileError (List (String × FileKind)))
  read : String → m (Except FileError Text.Bytes)
  write : String → Text.Bytes → m (Except FileError Unit)
  /-- Puts a line on the error output. -/
  remark : String → m Unit

namespace Files

variable {m : Type → Type} [Monad m] [Files m]

def isFile (path : String) : m Bool :=
  return (← kind? path) = some .file

def isDirectory (path : String) : m Bool :=
  return (← kind? path) = some .directory

def present (path : String) : m Bool :=
  return (← kind? path).isSome

def readText (path : String) : m (Except FileError String) := do
  match ← read path with
  | .error e => return .error e
  | .ok bytes =>
    match Text.decode? bytes with
    | some text => return .ok text
    | none => return .error .notText

def writeText (path text : String) : m (Except FileError Unit) :=
  write path (Text.encode text)

end Files
end Phrasebook
