import Phrasebook.Issue
import Phrasebook.PhraseFile
import Phrasebook.Tree.Leaves

/-!
The leaves of a phrase file as the lint rules see them.
-/
namespace Phrasebook.Lint

structure Leaf where
  path : KeyPath
  phrase : Phrase
  deriving DecidableEq, Repr

def leaves (file : PhraseFile) : List Leaf :=
  file.tree.leaves.map fun (path, phrase) => ⟨path, phrase⟩

namespace Leaf

def segment (leaf : Leaf) : String :=
  leaf.path.getLast?.getD ""

def key (leaf : Leaf) (separator : String) : String :=
  KeyPath.join separator leaf.path

def message (leaf : Leaf) (file : PhraseFile) (separator value : String) : Message :=
  ⟨file.path, file.lineOf leaf.path, leaf.key separator, value⟩

end Leaf
end Phrasebook.Lint
