import Phrasebook.Text.Search

/-!
Key paths: the segments that lead from the root of a phrase tree to one of its nodes.
-/
namespace Phrasebook

/-- The segments from the root down, outermost first. -/
abbrev KeyPath := List String

namespace KeyPath

def defaultSeparator : String := "|"

/-- Reads every backslash followed by `n` as a line feed. -/
def unescapeNewlines : List Char → List Char
  | '\\' :: 'n' :: rest => '\n' :: unescapeNewlines rest
  | c :: rest => c :: unescapeNewlines rest
  | [] => []

/-- A raw key is unescaped first and split on the separator after that. -/
def parse (separator raw : String) : KeyPath :=
  (Text.splitOn separator.toList (unescapeNewlines raw.toList)).map String.ofList

def join (separator : String) (path : KeyPath) : String :=
  separator.intercalate path

def baseKey (separator raw : String) : String :=
  match Text.splitOn separator.toList raw.toList with
  | base :: _ => String.ofList base
  | [] => raw

def parent? (path : KeyPath) : Option KeyPath :=
  if path.length < 2 then none else some path.dropLast

def child (path : KeyPath) (segment : String) : KeyPath :=
  path ++ [segment]

end KeyPath
end Phrasebook
