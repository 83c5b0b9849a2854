import Phrasebook.Lint.Leaf
import Phrasebook.Text.Folding

/-!
The characters of keys: letters, digits, `_`, `@` and `.`, in either case.
-/
namespace Phrasebook.Lint

def isPlainKeyChar (c : Char) : Bool :=
  ('a' ≤ c && c ≤ 'z') || c.isDigit || c = '_' || c = '@' || c = '.'

def isKeyChar (c : Char) : Bool :=
  isPlainKeyChar (Text.fold c)

def isKeySegment (segment : String) : Bool :=
  !segment.isEmpty && segment.toList.all isKeyChar

def checkCharset (file : PhraseFile) (separator : String) : List Issue :=
  ((leaves file).filter fun leaf => !isKeySegment leaf.segment).map fun leaf =>
    .keyCharset (leaf.message file separator leaf.phrase.primary) leaf.segment

end Phrasebook.Lint
