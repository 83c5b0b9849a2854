import Phrasebook.Program

/-!
The program on the real file system.
-/
namespace Phrasebook.Host

/-- Some calls report error numbers negated. -/
def errorNumber (code : UInt32) : UInt32 :=
  min code (0 - code)

/-- What the operating system reports about a file, told apart by its error number. -/
def fileError : IO.Error → FileError
  | .noFileOrDirectory _ _ _ => .notFound
  | .inappropriateType _ code _ =>
    if errorNumber code == 21 then .isDirectory else .notDirectory
  | .invalidArgument file code details =>
    if errorNumber code == 36 then .nameTooLong
    else if errorNumber code == 40 then .tooManyLinks
    else .other (toString (IO.Error.invalidArgument file code details))
  | e => .other (toString e)

def reported {α : Type} (action : IO α) : BaseIO (Except FileError α) := do
  match ← action.toBaseIO with
  | .ok a => return .ok a
  | .error e => return .error (fileError e)

def canonicalPath (path : String) : IO String := do
  let place ← IO.FS.realPath path
  let _ ← place.metadata
  return place.toString

def fileKind (data : IO.FS.Metadata) : FileKind :=
  match data.type with
  | .dir => .directory
  | .file => .file
  | .symlink => .link
  | .other => .other

def followedKind (path : String) : IO FileKind :=
  return fileKind (← ((← IO.currentDir) / path).metadata)

def ownKind (path : String) : IO FileKind :=
  return fileKind (← ((← IO.currentDir) / path).symlinkMetadata)

def listing (path : String) : IO (List (String × FileKind)) := do
  let entries ← ((← IO.currentDir) / path).readDir
  entries.toList.mapM fun entry => return (entry.fileName, fileKind (← entry.path.symlinkMetadata))

def writeBytes (path : String) (bytes : Text.Bytes) : IO Unit := do
  IO.FS.writeBinFile ((← IO.currentDir) / path) ⟨bytes.toArray⟩

def nonEmpty (path : String) : IO Unit := do
  if path.isEmpty then throw (.noFileOrDirectory path 2 "No such file or directory")

instance : Files BaseIO where
  canonical path := reported do nonEmpty path; canonicalPath path
  kind? path := do return (← reported do nonEmpty path; followedKind path).toOption
  ownKind path := reported do nonEmpty path; ownKind path
  list path := reported do nonEmpty path; listing path
  read path := reported do
    nonEmpty path
    return (← IO.FS.readBinFile ((← IO.currentDir) / path)).toList
  write path bytes := reported do nonEmpty path; writeBytes path bytes
  remark text := do
    let _ ← reported (IO.eprintln text)

def environmentNames : List String :=
  (CommandLine.commands.flatMap (·.arguments.filterMap (·.environment))).eraseDups

def explain (stop : CommandLine.Stop) : IO Unit :=
  match stop with
  | .help => IO.print CommandLine.overview
  | .version => IO.print CommandLine.version
  | stop => IO.eprintln s!"error: {stop.message}"

def finish (reply : Reply) : IO UInt32 := do
  IO.print reply.printed.out
  IO.eprint reply.printed.err
  return UInt32.ofNat reply.status.code

/-- Colours are for terminals, unless the environment asks for none. -/
def wantsColor : IO Bool := do
  if (← IO.getEnv "NO_COLOR").isSome then return false
  (← IO.getStdout).isTty

def start (words : List String) : IO UInt32 := do
  let color ← wantsColor
  let given ← environmentNames.mapM fun name => return (name, ← IO.getEnv name)
  let run : BaseIO _ := runProgram color (fun name => (given.lookup name).join) words
  match ← run with
  | .ok reply => finish reply
  | .error stop =>
    explain stop
    return UInt32.ofNat stop.exitCode

end Phrasebook.Host

def main (words : List String) : IO UInt32 :=
  Phrasebook.Host.start words
