import Phrasebook.Site
import Phrasebook.Validation

/-!
Issues found in phrase files and in source files, and their order in reports.
-/
namespace Phrasebook

inductive Severity where
  | error
  | warning
  deriving DecidableEq, Repr

inductive Rule where
  | keyCharset
  | keyEqualsValue
  | hardcodedWord
  | invalidCall
  | parseError
  deriving DecidableEq, Repr

namespace Rule

def all : List Rule :=
  [.keyCharset, .keyEqualsValue, .hardcodedWord, .invalidCall, .parseError]

def name : Rule → String
  | .keyCharset => "key-charset"
  | .keyEqualsValue => "key-equals-value"
  | .hardcodedWord => "hardcoded-word"
  | .invalidCall => "invalid-call"
  | .parseError => "parse-error"

def ofName? (name : String) : Option Rule :=
  all.find? (·.name = name)

def rank : Rule → Nat
  | .keyCharset => 0
  | .keyEqualsValue => 1
  | .hardcodedWord => 2
  | .invalidCall => 3
  | .parseError => 4

/-- Words that are written out are tolerated, everything else is an error. -/
def severity : Rule → Severity
  | .hardcodedWord => .warning
  | _ => .error

end Rule

namespace Severity

def name : Severity → String
  | .error => "error"
  | .warning => "warning"

end Severity

structure Message where
  file : String
  line : Nat
  key : String
  value : String
  deriving DecidableEq, Repr

inductive Issue where
  /-- The last segment of a key has characters that are not allowed. -/
  | keyCharset (message : Message) (segment : String)
  /-- A value, or the named plural form, repeats its key. -/
  | keyEqualsValue (message : Message) (form : Option String)
  /-- A value contains a word that should be substituted. -/
  | hardcodedWord (message : Message) (word : String)
  | invalidCall (site : Site) (key : String) (fault : CallFault)
  | parseError (file : String) (line : Option Nat) (reason : String)
  deriving DecidableEq, Repr

namespace Issue

def rule : Issue → Rule
  | .keyCharset _ _ => .keyCharset
  | .keyEqualsValue _ _ => .keyEqualsValue
  | .hardcodedWord _ _ => .hardcodedWord
  | .invalidCall _ _ _ => .invalidCall
  | .parseError _ _ _ => .parseError

def severity (issue : Issue) : Severity :=
  issue.rule.severity

def file : Issue → String
  | .keyCharset message _ => message.file
  | .keyEqualsValue message _ => message.file
  | .hardcodedWord message _ => message.file
  | .invalidCall site _ _ => site.file
  | .parseError file _ _ => file

def line? : Issue → Option Nat
  | .keyCharset message _ => some message.line
  | .keyEqualsValue message _ => some message.line
  | .hardcodedWord message _ => some message.line
  | .invalidCall site _ _ => some site.line
  | .parseError _ line _ => line

def site? : Issue → Option Site
  | .invalidCall site _ _ => some site
  | _ => none

def title : Issue → String
  | .keyCharset message _ => message.key
  | .keyEqualsValue message _ => message.key
  | .hardcodedWord message _ => message.key
  | .invalidCall _ key _ => key
  | .parseError _ _ reason => reason

def details? : Issue → Option String
  | .keyCharset _ segment => some s!"\"{segment}\" may only contain a-z, 0-9, _, @ and ."
  | .keyEqualsValue _ (some form) => some s!"'{form}' form repeats the key"
  | .keyEqualsValue _ none => some "value repeats the key"
  | .hardcodedWord message word => some s!"(\"{message.value}\") contains \"{word}\""
  | .invalidCall _ _ fault => some fault.message
  | .parseError _ _ _ => none

def order (a b : Issue) : Ordering :=
  (compare a.file b.file).then <|
    (compare (a.line?.getD 0) (b.line?.getD 0)).then <|
      (compare a.rule.rank b.rule.rank).then (compare a.title b.title)

def le (a b : Issue) : Bool :=
  (order a b).isLE

/-- The issues in the order of reports. Those that compare equal stay as they are. -/
def sort (issues : List Issue) : List Issue :=
  issues.mergeSort le

def count (severity : Severity) (issues : List Issue) : Nat :=
  issues.countP (·.severity = severity)

end Issue
end Phrasebook
