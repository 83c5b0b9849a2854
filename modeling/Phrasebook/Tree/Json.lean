import Phrasebook.Json.Printer
import Phrasebook.Tree.Basic

/-!
The JSON form of phrase trees. Below the root an object with an `other` member is a plural, any
other object a subtree.
-/
namespace Phrasebook

/-- The first value that is no part of a phrase tree, with its dotted key. -/
inductive DecodeError where
  | rootNotObject (found : String)
  | unsupported (key found : String)
  | formNotString (key form found : String)
  deriving DecidableEq, Repr

def DecodeError.message : DecodeError → String
  | .rootNotObject found =>
    s!"unsupported value at \"\": expected an object at the root, found {found}"
  | .unsupported key found =>
    s!"unsupported value at \"{key}\": expected a string or an object, found {found}"
  | .formNotString key form found =>
    s!"unsupported value at \"{key}\": plural form \"{form}\" must be a string, found {found}"

namespace Tree

/-- The dotted key of an entry. A parent whose own text is empty adds no dot. -/
def dotted (parent key : String) : String :=
  if parent.isEmpty then key else parent ++ "." ++ key

def decodeForms (key : String) :
    List (String × Json.Value) → Except DecodeError (List (String × String))
  | [] => .ok []
  | (form, .string text) :: rest => (decodeForms key rest).map ((form, text) :: ·)
  | (form, value) :: _ => .error (.formNotString key form value.describeKind)

mutual

def decodeNode (key : String) : Json.Value → Except DecodeError Node
  | .string text => .ok (.text text)
  | .object members =>
    if (members.lookup Plural.otherForm).isSome then
      (decodeForms key members).map fun forms => .plural ⟨forms⟩
    else (decodeMembers key members).map .subtree
  | value => .error (.unsupported key value.describeKind)

def decodeMembers (parent : String) : List (String × Json.Value) → Except DecodeError Tree
  | [] => .ok .nil
  | (key, value) :: rest =>
    match decodeNode (dotted parent key) value with
    | .error e => .error e
    | .ok node => (decodeMembers parent rest).map (cons key node)

end

/-- Decodes a tree. The root is an object and always a subtree. -/
def ofJson : Json.Value → Except DecodeError Tree
  | .object members => decodeMembers "" members
  | value => .error (.rootNotObject value.describeKind)

end Tree

def Plural.toJson (record : Plural) : Json.Value :=
  .object (record.forms.map fun (form, text) => (form, .string text))

def Phrase.toJson : Phrase → Json.Value
  | .text value => .string value
  | .plural record => record.toJson

namespace Tree

def members : Tree → List (String × Json.Value)
  | .nil => []
  | .leaf key value rest => (key, value.toJson) :: rest.members
  | .branch key children rest => (key, .object children.members) :: rest.members

def toJson (t : Tree) : Json.Value :=
  .object t.members

/-- The text of a phrase file: indented by four spaces and closed by a line feed. -/
def render (t : Tree) : String :=
  t.toJson.print (.indented 4) ++ "\n"

end Tree

def Node.toJson : Node → Json.Value
  | .leaf value => value.toJson
  | .subtree children => children.toJson

end Phrasebook
