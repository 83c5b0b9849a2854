import Phrasebook.Json.Basic
import Phrasebook.Decimal.Shortest
import Phrasebook.Text.Digits

/-!
Writing JSON, compact or indented. Each writer takes the text that follows what it writes.
-/
namespace Phrasebook.Json

inductive Layout where
  | compact
  | indented (width : Nat)
  deriving DecidableEq, Repr

/-- Quotes, backslashes and controls are escaped, every other character stands for itself. -/
def escapeChar (c : Char) : List Char :=
  match c with
  | '"' => ['\\', '"']
  | '\\' => ['\\', '\\']
  | '\x08' => ['\\', 'b']
  | '\x0c' => ['\\', 'f']
  | '\n' => ['\\', 'n']
  | '\r' => ['\\', 'r']
  | '\t' => ['\\', 't']
  | c =>
    if c.toNat < 0x20 then
      ['\\', 'u', '0', '0', Text.hexDigit (c.toNat / 16), Text.hexDigit (c.toNat % 16)]
    else [c]

def writeString (s : String) (after : List Char) : List Char :=
  '"' :: s.toList.flatMap escapeChar ++ '"' :: after

def quote (s : String) : List Char :=
  writeString s []

namespace Layout

def breakLine (layout : Layout) (depth : Nat) (after : List Char) : List Char :=
  match layout with
  | .compact => after
  | .indented width => '\n' :: (List.replicate (width * depth) ' ' ++ after)

def colon (layout : Layout) (after : List Char) : List Char :=
  match layout with
  | .compact => ':' :: after
  | .indented _ => ':' :: ' ' :: after

end Layout

def Number.text : Number → String
  | .natural value => toString value
  | .negative value => toString value
  | .float value => Decimal.ofFloat value

mutual

/-- Writes a value whose own container stands at depth `depth`. -/
def write (layout : Layout) (depth : Nat) (value : Value) (after : List Char) : List Char :=
  match value with
  | .null => "null".toList ++ after
  | .bool true => "true".toList ++ after
  | .bool false => "false".toList ++ after
  | .number n => n.text.toList ++ after
  | .string s => writeString s after
  | .array [] => '[' :: ']' :: after
  | .array (item :: items) =>
    '[' :: layout.breakLine (depth + 1) (write layout (depth + 1) item
      (writeItems layout depth items after))
  | .object [] => '{' :: '}' :: after
  | .object ((key, item) :: members) =>
    '{' :: layout.breakLine (depth + 1) (writeString key (layout.colon
      (write layout (depth + 1) item (writeMembers layout depth members after))))

def writeItems (layout : Layout) (depth : Nat) (items : List Value) (after : List Char) :
    List Char :=
  match items with
  | [] => layout.breakLine depth (']' :: after)
  | item :: items =>
    ',' :: layout.breakLine (depth + 1) (write layout (depth + 1) item
      (writeItems layout depth items after))

def writeMembers (layout : Layout) (depth : Nat) (members : List (String × Value))
    (after : List Char) : List Char :=
  match members with
  | [] => layout.breakLine depth ('}' :: after)
  | (key, item) :: members =>
    ',' :: layout.breakLine (depth + 1) (writeString key (layout.colon
      (write layout (depth + 1) item (writeMembers layout depth members after))))

end

def Value.print (layout : Layout) (value : Value) : String :=
  String.ofList (write layout 0 value [])

def Value.compact (value : Value) : String :=
  value.print .compact

end Phrasebook.Json
