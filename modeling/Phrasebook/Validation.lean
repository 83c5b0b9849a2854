import Phrasebook.Call
import Phrasebook.Placeholder
import Phrasebook.Tag
import Phrasebook.Tree.Access

/-!
Checking the arguments of a call against the English text of its key: every placeholder needs a
substitution, and every tag that is passed needs a marker.
-/
namespace Phrasebook

inductive CallFault where
  | malformedSpecifier (specifier : String)
  | unexpectedFormat (found : Char)
  | missingSubstitution (placeholder : String) (given : Bool)
  | unmatchedTag (tag text : String)
  | invalidTag (tag reason : String)
  deriving DecidableEq, Repr

namespace CallFault

def ofPlaceholder : Placeholder.Fault → CallFault
  | .malformed specifier => .malformedSpecifier (String.ofList specifier)
  | .format found => .unexpectedFormat found

def message : CallFault → String
  | .malformedSpecifier specifier => s!"invalid format specifier '{specifier}'"
  | .unexpectedFormat found =>
    s!"'{found}' used as format character: you probably meant 's'"
  | .missingSubstitution placeholder true => s!"no value found for placeholder '{placeholder}'"
  | .missingSubstitution placeholder false =>
    s!"placeholder found ('{placeholder}') but no substitutions given"
  | .unmatchedTag tag text => s!"no <{tag}> marker in \"{text}\""
  | .invalidTag tag reason => s!"invalid tag name '{tag}': {reason}"

end CallFault

/-- The English text a call of `key` is checked against. Unknown keys, subtrees and empty texts have
none. -/
def englishText? (tree : Tree) (separator key : String) : Option String :=
  ((tree.getLeaf? (KeyPath.parse separator key)).map Phrase.primary).filter (!·.isEmpty)

def checkPlaceholder (substitutions : Option (List String)) (name : String) :
    Except CallFault Unit :=
  match substitutions with
  | none => .error (.missingSubstitution name false)
  | some given => if name ∈ given then .ok () else .error (.missingSubstitution name true)

def checkTag (english tag : String) : Except CallFault Unit :=
  if Tag.occurs tag.toList english.toList then .ok () else .error (.unmatchedTag tag english)

/-- Checks a call. Placeholders come first, then tags, each in order. -/
def Call.check (call : Call) (english : String) : Except CallFault Unit :=
  match Placeholder.names english with
  | .error fault => .error (.ofPlaceholder fault)
  | .ok names => do
    names.forM (checkPlaceholder call.substitutions)
    call.tags.forM (checkTag english)

end Phrasebook
