import Phrasebook.Lint.Leaf

/-!
Values that repeat the last segment of their key, which new keys are seeded with.
-/
namespace Phrasebook.Lint

/-- Where a phrase repeats a segment: the text itself (`none`), or the name of a plural form. Of the
plural forms, `other` comes first. -/
def echo? (segment : String) : Phrase → Option (Option String)
  | .text value => if value = segment then some none else none
  | .plural record =>
    if record.other = segment then some (some Plural.otherForm)
    else if record.one? = some segment then some (some Plural.oneForm)
    else none

def checkEcho (file : PhraseFile) (separator : String) : List Issue :=
  (leaves file).filterMap fun leaf =>
    (echo? leaf.segment leaf.phrase).map fun form =>
      .keyEqualsValue (leaf.message file separator leaf.phrase.primary) form

end Phrasebook.Lint
