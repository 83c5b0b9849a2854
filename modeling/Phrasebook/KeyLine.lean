import Phrasebook.Json.Printer
import Phrasebook.KeyPath
import Phrasebook.Text.Blank

/-!
The line of a phrase file that declares a key, found by looking for the quoted segments of its path
in the text. The search knows nothing about nesting.
-/
namespace Phrasebook.KeyLine

def isKeyBefore (after : List Char) : Bool :=
  (Text.trimStart after).head? = some ':'

def findKey? (quoted : List Char) : List Char → Option (List Char)
  | [] => none
  | c :: cs =>
    match Text.dropPrefix? quoted (c :: cs) with
    | some after => if isKeyBefore after then some after else findKey? quoted cs
    | none => findKey? quoted cs

/-- Follows the segments through the text, each behind the one before, up to the first that is not
found. -/
def follow : KeyPath → List Char → List Char
  | [], text => text
  | segment :: path, text =>
    match findKey? (Json.quote segment) text with
    | some after => follow path after
    | none => text

/-- The line on which the last segment that is found ends. -/
def lineOf (content : List Char) (path : KeyPath) : Nat :=
  1 + content.count '\n' - (follow path content).count '\n'

end Phrasebook.KeyLine
