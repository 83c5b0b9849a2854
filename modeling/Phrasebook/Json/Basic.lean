/-!
JSON values. The members of an object keep their order.
-/
namespace Phrasebook.Json

/-- A number as its reader classifies it: an integer of at most 64 bits, or a float. -/
inductive Number where
  | natural (value : Nat)
  | negative (value : Int)
  | float (value : Float)

inductive Value where
  | null
  | bool (value : Bool)
  | number (value : Number)
  | string (value : String)
  | array (items : List Value)
  | object (members : List (String × Value))

namespace Value

def ofNat (n : Nat) : Value := .number (.natural n)

def ofStrings (items : List String) : Value := .array (items.map .string)

def ofString? : Option String → Value
  | some s => .string s
  | none => .null

def describeKind : Value → String
  | .null => "null"
  | .bool _ => "a boolean"
  | .number _ => "a number"
  | .string _ => "a string"
  | .array _ => "an array"
  | .object _ => "an object"

def member? (name : String) : Value → Option Value
  | .object members => members.lookup name
  | _ => none

def string? : Value → Option String
  | .string s => some s
  | _ => none

def bool? : Value → Option Bool
  | .bool b => some b
  | _ => none

def nat? : Value → Option Nat
  | .number (.natural n) => some n
  | _ => none

def items? : Value → Option (List Value)
  | .array items => some items
  | _ => none

end Value
end Phrasebook.Json
