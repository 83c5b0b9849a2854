import Phrasebook.Assoc
import Phrasebook.Json.Punctuation

/-!
Reading JSON texts. Of several members with one key the last value wins, at the first position.
-/
namespace Phrasebook.Json

/-- Containers may be nested one level less deep than this. -/
def depthLimit : Nat := 128

mutual

/-- Reads a value. `depth` levels of containers are left, and the fuel bounds the steps. -/
def readValue (fuel depth : Nat) (s : List Char) : Reading Value :=
  match fuel with
  | 0 => .error (.ahead .eofValue s)
  | fuel + 1 =>
    match skipBlanks s with
    | [] => .error (.ahead .eofValue [])
    | 'n' :: s => readWord .null "ull".toList s
    | 't' :: s => readWord (.bool true) "rue".toList s
    | 'f' :: s => readWord (.bool false) "alse".toList s
    | '"' :: s => (readString s).map fun (text, s) => (.string text, s)
    | '-' :: s => (readNumber true s).map fun (n, s) => (.number n, s)
    | '[' :: s =>
      if depth ≤ 1 then .error (.ahead .recursionLimit ('[' :: s))
      else (readItems fuel (depth - 1) true [] s).map fun (items, s) => (.array items, s)
    | '{' :: s =>
      if depth ≤ 1 then .error (.ahead .recursionLimit ('{' :: s))
      else (readMembers fuel (depth - 1) true [] s).map fun (members, s) => (.object members, s)
    | c :: s =>
      if c.isDigit then (readNumber false (c :: s)).map fun (n, s) => (.number n, s)
      else .error (.ahead .expectedValue (c :: s))

def readItems (fuel depth : Nat) (first : Bool) (read : List Value) (s : List Char) :
    Reading (List Value) :=
  match fuel with
  | 0 => .error (.ahead .eofArray s)
  | fuel + 1 =>
    match nextItem first s with
    | .error fault => .error fault
    | .ok (false, s) => .ok (read.reverse, s)
    | .ok (true, s) =>
      match readValue fuel depth s with
      | .error fault => .error fault
      | .ok (item, s) => readItems fuel depth false (item :: read) s

def readMembers (fuel depth : Nat) (first : Bool) (read : List (String × Value)) (s : List Char) :
    Reading (List (String × Value)) :=
  match fuel with
  | 0 => .error (.ahead .eofObject s)
  | fuel + 1 =>
    match nextKey first s with
    | .error fault => .error fault
    | .ok (none, s) => .ok (read, s)
    | .ok (some key, s) =>
      match readColon s with
      | .error fault => .error fault
      | .ok (_, s) =>
        match readValue fuel depth s with
        | .error fault => .error fault
        | .ok (value, s) => readMembers fuel depth false (Assoc.put key value read) s

end

def parse (content : List Char) : Except Fault Value :=
  match readValue (stepBound content) depthLimit content with
  | .error fault => .error fault
  | .ok (value, rest) => (finish rest).map fun _ => value

end Phrasebook.Json
