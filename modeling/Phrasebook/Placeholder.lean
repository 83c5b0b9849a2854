import Phrasebook.Text.Blank

/-!
Placeholders `%(name)s` in phrases. A doubled percent sign stands for itself.
-/
namespace Phrasebook.Placeholder

inductive Fault where
  | malformed (specifier : List Char)
  | format (found : Char)
  deriving DecidableEq, Repr

/-- The name and the format character of a specifier, read from behind its percent sign. Neither of
them spans lines. -/
def specifier? : List Char → Option (List Char × Char)
  | '(' :: rest =>
    let name := rest.takeWhile fun c => c ≠ ')' && !Text.isLineBreak c
    match rest.drop name.length with
    | ')' :: c :: _ => if Text.isLineBreak c then none else some (name, c)
    | _ => none
  | _ => none

/-- The names of the placeholders in order. A specifier runs up to the next percent sign. -/
def scan : List Char → Except Fault (List (List Char))
  | [] => .ok []
  | c :: rest =>
    if c = '%' then
      match rest with
      | '%' :: rest => scan rest
      | rest =>
        let text := rest.takeWhile (· ≠ '%')
        match specifier? text with
        | none => .error (.malformed ('%' :: text))
        | some (name, format) =>
          if format = 's' then (scan (rest.drop text.length)).map (name :: ·)
          else .error (.format format)
    else scan rest
termination_by text => text.length

def names (text : String) : Except Fault (List String) :=
  (scan text.toList).map fun found => (found.map String.ofList).eraseDups

end Phrasebook.Placeholder
