import Phrasebook.Text.Lowercase
import Phrasebook.Text.Search

/-!
Language tags, and the keys a language can be looked up by.
-/
namespace Phrasebook.Language

def normalize (tag : String) : String :=
  let lower := (Text.lowercase tag).toList
  match Text.breakOn? ['_'] lower with
  | some (before, after) => String.ofList (before ++ '-' :: after)
  | none => String.ofList lower

/-- The keys of a tag, the most specific one first. A region that repeats the language adds nothing.
-/
def keys (tag : String) : List String :=
  let normalized := normalize tag
  match Text.splitOn ['-'] normalized.toList with
  | [language, region] =>
    if language = region then [String.ofList language] else [normalized, String.ofList language]
  | _ => [normalized]

/-- Whether a language is among the wanted ones. A region is also wanted with its language. -/
def isSelected (wanted : List String) (tag : String) : Bool :=
  wanted.any fun other => (keys other).head?.any (· ∈ keys tag)

end Phrasebook.Language
