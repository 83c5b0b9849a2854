import Phrasebook.CommandLine.Argument
import Phrasebook.Text.Search

/-!
Assigning the words of a command line to the arguments of a command. The values of an argument are
collected first, and are checked when something else follows or the line ends.
-/
namespace Phrasebook.CommandLine

/-- The values of every argument that is given. A flag has none. -/
abbrev Matches := List (String × List String)

structure Matching where
  given : Matches
  /-- The argument whose values are being collected. -/
  pending : Option (Argument × List String)
  /-- Whether the pending option still lacks its value. -/
  awaiting : Bool
  /-- The positional arguments to be filled next. -/
  unfilled : List Argument
  /-- Whether only values follow. -/
  valuesOnly : Bool

namespace Matching

def start (spec : List Argument) : Matching :=
  ⟨[], none, false, spec.filter Argument.isPositional, false⟩

def add (m : Matching) (a : Argument) (values : List String) : Matching :=
  { m with given := Assoc.update a.name (fun before => before.getD [] ++ values) m.given }

def checkRepeated (m : Matching) (a : Argument) : Except Stop Unit :=
  if !a.repeats ∧ (m.given.lookup a.name).isSome then .error .repeated else .ok ()

def commit (m : Matching) : Except Stop Matching :=
  match m.pending with
  | none => .ok m
  | some (a, values) => do
    if values.isEmpty then throw .invalidValue
    m.checkRepeated a
    unless values.all a.values.accepts do throw .invalidValue
    let m := m.add a values
    return { m with pending := none, awaiting := false }

def readFlag (m : Matching) (a : Argument) : Except Stop Matching := do
  let m ← m.commit
  m.checkRepeated a
  return m.add a []

def readOption (m : Matching) (a : Argument) (attached : Option String) : Except Stop Matching := do
  let m ← m.commit
  match attached with
  | some value => commit { m with pending := some (a, [value]) }
  | none => return { m with pending := some (a, []), awaiting := true }

def readHelp (m : Matching) : Except Stop Matching := do
  discard m.commit
  throw .help

def splitAttached (word : List Char) : String × Option String :=
  match Text.breakOn? ['='] word with
  | some (name, value) => (String.ofList name, some (String.ofList value))
  | none => (String.ofList word, none)

def readLong (m : Matching) (spec : List Argument) (word : List Char) : Except Stop Matching :=
  let (name, attached) := splitAttached word
  if name = "help" then
    if attached.isSome then .error .surplusValue else m.readHelp
  else
    match spec.find? fun a => !a.isPositional && a.name = name with
    | none => .error .unknownArgument
    | some a =>
      if a.form = .option then m.readOption a attached
      else if attached.isSome then .error .surplusValue
      else m.readFlag a

def readShorts (m : Matching) (spec : List Argument) : List Char → Except Stop Matching
  | [] => .ok m
  | c :: cs => do
    if c = 'h' then m.readHelp
    else
      match spec.find? (·.hasShort c) with
      | none => throw .unknownArgument
      | some a => readShorts (← m.readFlag a) spec cs

def readPositional (m : Matching) (value : String) : Except Stop Matching :=
  match m.unfilled with
  | [] => .error .unknownArgument
  | a :: rest =>
    match m.pending with
    | some (b, values) =>
      if b.name = a.name ∧ a.repeats then .ok { m with pending := some (a, values ++ [value]) }
      else do
        let m ← m.commit
        return { m with pending := some (a, [value]), unfilled := if a.repeats then m.unfilled else rest }
    | none =>
      .ok { m with pending := some (a, [value]), unfilled := if a.repeats then m.unfilled else rest }

/-- Reads a word that stands for itself: the value of the option before it, or a value alone. -/
def readValue (m : Matching) (value : String) : Except Stop Matching :=
  match m.awaiting, m.pending with
  | true, some (a, values) =>
    .ok { m with pending := some (a, values ++ [value]), awaiting := false }
  | _, _ => m.readPositional value

/-- Reads the next word. A single dash is a value, and behind two dashes all words are. -/
def readWord (spec : List Argument) (m : Matching) (word : String) : Except Stop Matching :=
  if m.valuesOnly then m.readPositional word
  else
    match word.toList with
    | ['-', '-'] => .ok { m with valuesOnly := true }
    | '-' :: '-' :: name => m.readLong spec name
    | '-' :: c :: cs => m.readShorts spec (c :: cs)
    | _ => m.readValue word

def readEnvironment (environment : String → Option String) (m : Matching) (a : Argument) :
    Except Stop Matching :=
  match m.given.lookup a.name, a.environment.bind environment with
  | none, some value => if a.values.accepts value then .ok (m.add a [value]) else .error .invalidValue
  | _, _ => .ok m

end Matching

def assign (spec : List Argument) (environment : String → Option String) (words : List String) :
    Except Stop Matches := do
  let m ← words.foldlM (Matching.readWord spec) (.start spec)
  let m ← m.commit
  let m ← spec.foldlM (Matching.readEnvironment environment) m
  if spec.any fun a => a.required && (m.given.lookup a.name).isNone then throw .missingArgument
  return m.given

end Phrasebook.CommandLine
