import Phrasebook.Text.Blank
import Phrasebook.Text.Search

/-!
Lists written as one text, with commas or line feeds between the items.
-/
namespace Phrasebook.Text

/-- The items of a list without the blanks around them. Empty items do not count. -/
def items (text : List Char) : List (List Char) :=
  (((splitOn ['\n'] text).flatMap (splitOn [','])).map trim).filter (!·.isEmpty)

def listed (text : String) : List String :=
  (items text.toList).map String.ofList

end Phrasebook.Text
