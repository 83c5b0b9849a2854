import Phrasebook.Site

/-!
Calls found in source files that look up a phrase by its key.
-/
namespace Phrasebook

/-- How a call was found. Calls in markup carry no information on their arguments. -/
inductive Origin where
  | script
  | markup
  deriving DecidableEq, Repr

/-- A call with the key it looks up. `substitutions` are the property names of the second argument
and `tags` those of the third, where these are object literals. -/
structure Call where
  site : Site
  callee : String
  key : String
  substitutions : Option (List String)
  tags : List String
  origin : Origin
  deriving DecidableEq, Repr

def defaultFunctions : List String := ["_t", "_td", "_tDom"]

def functionNames (extra : List String) : List String :=
  extra.foldl (fun names name => if name ∈ names then names else names ++ [name]) defaultFunctions

namespace Call

def checkedFunction : String := "_t"

def countName : String := "count"

/-- Whether the call passes a count, whatever its value. -/
def isPlural (call : Call) : Bool :=
  match call.substitutions with
  | some names => countName ∈ names
  | none => false

def isChecked (call : Call) : Bool :=
  call.origin = .script ∧ call.callee = checkedFunction

end Call
end Phrasebook
