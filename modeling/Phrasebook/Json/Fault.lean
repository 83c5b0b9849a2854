/-!
Faults found while reading JSON, and where they are reported.
-/
namespace Phrasebook.Json

inductive Flaw where
  | eofValue
  | eofObject
  | eofArray
  | eofString
  | expectedValue
  | expectedIdent
  | expectedColon
  | expectedObjectComma
  | expectedArrayComma
  | keyNotString
  | trailingComma
  | trailingCharacters
  | invalidEscape
  | invalidNumber
  | numberOutOfRange
  | loneSurrogate
  | endOfHexEscape
  | controlCharacter
  | recursionLimit
  | other (message : String)
  deriving DecidableEq, Repr

def Flaw.message : Flaw → String
  | .eofValue => "EOF while parsing a value"
  | .eofObject => "EOF while parsing an object"
  | .eofArray => "EOF while parsing a list"
  | .eofString => "EOF while parsing a string"
  | .expectedValue => "expected value"
  | .expectedIdent => "expected ident"
  | .expectedColon => "expected \x60:\x60"
  | .expectedObjectComma => "expected \x60,\x60 or \x60\x7d\x60"
  | .expectedArrayComma => "expected \x60,\x60 or \x60]\x60"
  | .keyNotString => "key must be a string"
  | .trailingComma => "trailing comma"
  | .trailingCharacters => "trailing characters"
  | .invalidEscape => "invalid escape"
  | .invalidNumber => "invalid number"
  | .numberOutOfRange => "number out of range"
  | .loneSurrogate => "lone leading surrogate in hex escape"
  | .endOfHexEscape => "unexpected end of hex escape"
  | .controlCharacter => "control character (\\u0000-\\u001F) found while parsing a string"
  | .recursionLimit => "recursion limit exceeded"
  | .other message => message

/-- A flaw, the text still unread when it was found, and how many bytes of that text had been looked
at. -/
structure Fault where
  flaw : Flaw
  rest : List Char
  seen : Nat
  deriving DecidableEq, Repr

namespace Fault

/-- Reported after everything read so far. -/
def behind (flaw : Flaw) (rest : List Char) : Fault := ⟨flaw, rest, 0⟩

/-- Reported on the next character, or at the end of the text. -/
def ahead (flaw : Flaw) (rest : List Char) : Fault := ⟨flaw, rest, if rest.isEmpty then 0 else 1⟩

end Fault

def byteLength (s : List Char) : Nat :=
  s.foldr (fun c bytes => c.utf8Size + bytes) 0

/-- The line and the bytes on that line after the first `bytes` bytes of a text. -/
def locate : List Char → (bytes line column : Nat) → Nat × Nat
  | [], _, line, column => (line, column)
  | c :: cs, bytes, line, column =>
    if bytes = 0 then (line, column)
    else if c = '\n' then locate cs (bytes - 1) (line + 1) 0
    else if bytes < c.utf8Size then (line, column + bytes)
    else locate cs (bytes - c.utf8Size) line (column + c.utf8Size)

def Fault.message (content : List Char) (fault : Fault) : String :=
  let bytes := byteLength content - byteLength fault.rest + fault.seen
  let (line, column) := locate content bytes 1 0
  s!"{fault.flaw.message} at line {line} column {column}"

end Phrasebook.Json
