/-!
Patterns for file paths. A star stands for any characters, slashes included, and a double star for
any number of whole path components.
-/
namespace Phrasebook.Glob

inductive Member where
  | single (c : Char)
  | range (first last : Char)
  deriving DecidableEq, Repr

inductive Token where
  | char (c : Char)
  | anyChar
  | sequence
  | components
  | within (members : List Member)
  | except (members : List Member)
  deriving DecidableEq, Repr

inductive Flaw where
  | wildcards
  | component
  | range
  deriving DecidableEq, Repr

structure Fault where
  flaw : Flaw
  position : Nat
  deriving DecidableEq, Repr

def Flaw.message : Flaw → String
  | .wildcards => "wildcards are either regular \x60*\x60 or recursive \x60**\x60"
  | .component => "recursive wildcards must form a single path component"
  | .range => "invalid range pattern"

def Fault.message (fault : Fault) : String :=
  s!"Pattern syntax error near position {fault.position}: {fault.flaw.message}"

/-- The members of a class. A hyphen between two characters makes a range. -/
def members : List Char → List Member
  | first :: '-' :: last :: cs => .range first last :: members cs
  | c :: cs => .single c :: members cs
  | [] => []

/-- The characters of a class up to its bracket, and the text behind it. The first character is part
of the class even if it is a bracket. -/
def classText? : List Char → Option (List Char × List Char)
  | [] => none
  | c :: cs =>
    let inner := cs.takeWhile (· ≠ ']')
    match cs.drop inner.length with
    | _ :: rest => some (c :: inner, rest)
    | [] => none

theorem length_lt_of_classText? {text inner rest : List Char}
    (h : classText? text = some (inner, rest)) : rest.length < text.length := by
  cases text with
  | nil => simp [classText?] at h
  | cons c cs =>
    simp only [classText?] at h
    split at h
    · rename_i d tail hd
      cases h
      have := congrArg List.length hd
      simp only [List.length_drop, List.length_cons] at this ⊢
      omega
    · cases h

def class? : List Char → Option (Token × List Char)
  | '!' :: cs => (classText? cs).map fun (inner, rest) => (.except (members inner), rest)
  | cs => (classText? cs).map fun (inner, rest) => (.within (members inner), rest)

theorem length_lt_of_class? {text rest : List Char} {token : Token}
    (h : class? text = some (token, rest)) : rest.length < text.length := by
  unfold class? at h
  split at h
  · obtain ⟨⟨inner, r⟩, hc, he⟩ := Option.map_eq_some_iff.1 h
    cases he
    exact Nat.lt_succ_of_lt (length_lt_of_classText? hc)
  · obtain ⟨⟨inner, r⟩, hc, he⟩ := Option.map_eq_some_iff.1 h
    cases he
    exact length_lt_of_classText? hc

/-- Reads a pattern from a position on. A double star follows the start or a slash, and ends at a
slash, which it takes, or at the end. -/
def parseFrom (previous : Option Char) (position : Nat) (text : List Char) :
    Except Fault (List Token) :=
  match text with
  | [] => .ok []
  | c :: cs =>
    if c = '?' then (parseFrom (some c) (position + 1) cs).map (.anyChar :: ·)
    else if c = '*' then
      match cs with
      | '*' :: '*' :: _ => .error ⟨.wildcards, position + 2⟩
      | '*' :: rest =>
        if previous = none ∨ previous = some '/' then
          match rest with
          | [] => .ok [.components]
          | d :: rest =>
            if d = '/' then (parseFrom (some d) (position + 3) rest).map (.components :: ·)
            else .error ⟨.component, position + 2⟩
        else .error ⟨.component, position - 1⟩
      | rest => (parseFrom (some c) (position + 1) rest).map (.sequence :: ·)
    else if c = '[' then
      match h : class? cs with
      | none => .error ⟨.range, position⟩
      | some (token, rest) =>
        have := length_lt_of_class? h
        (parseFrom (some ']') (position + 1 + (cs.length - rest.length)) rest).map (token :: ·)
    else (parseFrom (some c) (position + 1) cs).map (.char c :: ·)
termination_by text.length

def parse (pattern : String) : Except Fault (List Token) :=
  parseFrom none 0 pattern.toList

def Member.holds (c : Char) : Member → Bool
  | .single d => c = d
  | .range first last => first ≤ c && c ≤ last

def Token.holds (c : Char) : Token → Bool
  | .char d => c = d
  | .anyChar => true
  | .within members => members.any (·.holds c)
  | .except members => !members.any (·.holds c)
  | .sequence | .components => false

/-- Whether the rest of a pattern matches the suffixes of a text, the longest one first. -/
abbrev Matches := List Bool

/-- The suffixes that a star and the rest match: those that have a match of the rest in them. -/
def afterSequence : Matches → Matches
  | [] => []
  | rest :: shorter =>
    let found := afterSequence shorter
    (rest || found.headD false) :: found

/-- The suffixes in which the rest matches behind a slash, or at the end. -/
def behindSlash : List Char → Matches → Matches
  | c :: cs, _ :: rest =>
    let found := behindSlash cs rest
    ((c = '/' && rest.headD false) || found.headD false) :: found
  | _, rest => rest

def afterChar (token : Token) : List Char → Matches → Matches
  | c :: cs, _ :: rest => (token.holds c && rest.headD false) :: afterChar token cs rest
  | _, _ => [false]

def suffixMatches (text : List Char) : List Token → Matches
  | [] => text.map (fun _ => false) ++ [true]
  | .sequence :: tokens => afterSequence (suffixMatches text tokens)
  | .components :: tokens =>
    let rest := suffixMatches text tokens
    List.zipWith or rest (behindSlash text rest)
  | token :: tokens => afterChar token text (suffixMatches text tokens)

def isMatch (tokens : List Token) (text : List Char) : Bool :=
  (suffixMatches text tokens).headD false

end Phrasebook.Glob
