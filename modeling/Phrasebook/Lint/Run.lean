import Phrasebook.Lint.Charset
import Phrasebook.Lint.Echo
import Phrasebook.Lint.Words

/-!
Running lint rules over a phrase file.
-/
namespace Phrasebook.Lint

def rules : List Rule :=
  [.keyCharset, .keyEqualsValue, .hardcodedWord]

/-- What a single rule finds. Rules about source files find nothing here. -/
def find (file : PhraseFile) (separator : String) (list : Denylist) : Rule → List Issue
  | .keyCharset => checkCharset file separator
  | .keyEqualsValue => checkEcho file separator
  | .hardcodedWord => checkWords file separator list
  | .invalidCall => []
  | .parseError => []

def run (file : PhraseFile) (separator : String) (selected : List Rule) (list : Denylist) :
    List Issue :=
  Issue.sort (selected.flatMap (find file separator list))

end Phrasebook.Lint
