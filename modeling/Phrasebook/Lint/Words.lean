import Phrasebook.Lint.Leaf
import Phrasebook.Text.Folding
import Phrasebook.Text.WordChar

/-!
Words that should be substituted rather than written out, looked for as whole words and without
regard to case.
-/
namespace Phrasebook.Lint

/-- Whether `word` stands as a whole word at the front of a text, with `before` on its left. -/
def startsWord (word : List Char) (before : Option Char) (text : List Char) : Bool :=
  match Text.dropFolded? word text with
  | none => false
  | some rest =>
    let last := (text.take word.length).getLast?.or before
    Text.isBoundary before text.head? && Text.isBoundary last rest.head?

def hasWord (word : List Char) (before : Option Char) : List Char → Bool
  | [] => startsWord word before []
  | c :: cs => startsWord word before (c :: cs) || hasWord word (some c) cs

structure Denylist where
  words : List String
  allowedKeys : List String
  deriving DecidableEq, Repr

namespace Denylist

def find? (list : Denylist) (value : String) : Option String :=
  list.words.find? fun word => hasWord word.toList none value.toList

end Denylist

/-- The texts of a leaf with the words found in them, up to one text for each word. -/
def findings (list : Denylist) : (reported : List String) → List String →
    List (String × String)
  | _, [] => []
  | reported, value :: values =>
    match list.find? value with
    | none => findings list reported values
    | some word =>
      if word ∈ reported then findings list reported values
      else (value, word) :: findings list (word :: reported) values

def checkWords (file : PhraseFile) (separator : String) (list : Denylist) : List Issue :=
  (leaves file).flatMap fun leaf =>
    if leaf.key separator ∈ list.allowedKeys then []
    else
      (findings list [] leaf.phrase.strings).map fun (value, word) =>
        .hardcodedWord (leaf.message file separator value) word

end Phrasebook.Lint
