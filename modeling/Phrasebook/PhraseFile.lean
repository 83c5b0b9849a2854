import Phrasebook.Json.Parser
import Phrasebook.KeyLine
import Phrasebook.Tree.Json
import Phrasebook.Tree.Merge

/-!
Phrase files: a tree together with the text it was read from.
-/
namespace Phrasebook

inductive FormatError where
  | json (fault : Json.Fault)
  | value (error : DecodeError)
  deriving DecidableEq, Repr

def FormatError.reason (content : String) : FormatError → String
  | .json fault => fault.message content.toList
  | .value error => error.message

def Tree.parse (content : String) : Except FormatError Tree :=
  match Json.parse content.toList with
  | .error fault => .error (.json fault)
  | .ok value =>
    match Tree.ofJson value with
    | .error error => .error (.value error)
    | .ok tree => .ok tree

structure PhraseFile where
  path : String
  content : String
  tree : Tree

structure InvalidFile where
  path : String
  reason : String
  deriving DecidableEq, Repr

def InvalidFile.message (e : InvalidFile) : String :=
  s!"invalid JSON in {e.path}: {e.reason}"

namespace PhraseFile

def parse (path content : String) : Except InvalidFile PhraseFile :=
  match Tree.parse content with
  | .error e => .error ⟨path, e.reason content⟩
  | .ok tree => .ok ⟨path, content, tree⟩

def lineOf (file : PhraseFile) (path : KeyPath) : Nat :=
  KeyLine.lineOf file.content.toList path

/-- The text with its keys sorted, unless the file already is exactly that. -/
def sorted? (file : PhraseFile) : Option String :=
  let text := file.tree.sorted.render
  if text = file.content then none else some text

end PhraseFile
end Phrasebook
