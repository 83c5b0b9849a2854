import Phrasebook.Text.Blank
import Phrasebook.Text.Search

/-!
Tag markers in phrases: `<tag>` or `<tag/>`, with blanks allowed before the slash.
-/
namespace Phrasebook.Tag

def isMarker (tag text : List Char) : Bool :=
  match Text.dropPrefix? ('<' :: tag) text with
  | none => false
  | some ('>' :: _) => true
  | some rest => (Text.dropPrefix? ['/', '>'] (Text.trimStart rest)).isSome

def occurs (tag : List Char) : List Char → Bool
  | [] => false
  | c :: cs => isMarker tag (c :: cs) || occurs tag cs

end Phrasebook.Tag
