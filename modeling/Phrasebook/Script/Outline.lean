import Phrasebook.Script.Source
import Phrasebook.Script.Word

/-!
Outlines of scripts: syntax trees reduced to what tells phrase calls and their literal arguments
apart, and places that can be assigned to from other expressions. The parts of an outline stand in
the order in which they are visited. A name is known to show where it stands, and so is `new`.
-/
namespace Phrasebook.Script

variable {src : Source}

inductive CastKind where
  | asType
  | constant
  | satisfies
  | nonNull
  /-- `<T>value` -/
  | assertion
  /-- `value<T>` -/
  | instantiation
  deriving DecidableEq, Repr

inductive Form where
  | name (text : String)
  /-- A string literal. One with a lone surrogate has no value. -/
  | text (value : Option String)
  | literal
  /-- A template with its pieces. Its parts are the interpolations between them. -/
  | template (pieces : List (Option String))
  | sum
  /-- `&&` and `||`, or `??`. -/
  | logical (nullish : Bool)
  | binary
  | paren
  | cast (kind : CastKind)
  /-- An array literal, with the place of the comma behind its last element. -/
  | array (comma : Option Nat)
  /-- An object literal, with the place of the comma behind its last property. -/
  | object (comma : Option Nat)
  /-- A missing element of an array. -/
  | hole
  | spread
  /-- A property with its plain name, if it has one. Its parts are its key and its value. -/
  | property (key : Option String)
  | shorthand (name : String)
  /-- `name = value` in an object, which only a pattern may hold. -/
  | defaulted (name : String)
  /-- A method or a getter with its plain name. -/
  | method (key : Option String)
  | setter
  /-- An assignment: by `=` alone, or by another operator. -/
  | assignment (plain : Bool)
  | member
  | superMember
  /-- An access in an optional chain, or a call in it. -/
  | chain (isMember : Bool)
  /-- A call. Its parts are the callee, then so many arguments, then its type arguments. -/
  | call (arity : Nat)
  /-- A `new` expression, with parts like those of a call. -/
  | creation (arity : Nat)
  | arrow
  | function
  | classExpr
  | unary
  | await
  | update
  | conditional
  | arrayPattern
  | objectPattern
  | rest
  /-- A pattern with a default value. -/
  | initialized
  /-- What stands in the place of syntax that could not be read. -/
  | invalid
  /-- A statement that is an expression. -/
  | statement
  /-- Any other syntax. -/
  | group
  deriving DecidableEq, Repr, Inhabited

/-- Whether syntax of some form may be reported at a position. Names, and `new` expressions, have to
show there. -/
def Form.Opens (src : Source) (position : Nat) : Form → Prop
  | .name word => src.Opens position word
  | .creation _ => src.Opens position "new"
  | _ => True

theorem Source.ShowsOpening.opens_form {position : Nat} (h : src.ShowsOpening position)
    (form : Form) : form.Opens src position := by
  cases form with
  | name word => exact h.opens word
  | creation => exact h.opens "new"
  | _ => trivial

inductive Outline (src : Source) where
  | node (form : Form) (start : Nat) (parts : List (Outline src))
    (opens : form.Opens src start := by exact trivial)

namespace Outline

def form : Outline src → Form
  | .node form _ _ _ => form

def start : Outline src → Nat
  | .node _ start _ _ => start

def parts : Outline src → List (Outline src)
  | .node _ _ parts _ => parts

theorem opens : (outline : Outline src) → outline.form.Opens src outline.start
  | .node _ _ _ opens => opens

def group (parts : List (Outline src)) : Outline src := .node .group 0 parts

def empty : Outline src := .group []

def ofWord {text : String} (word : WordPlace src text) : Outline src :=
  .node (.name text) word.start [] word.opens

def withParts (outline : Outline src) (more : List (Outline src)) : Outline src :=
  .node outline.form outline.start (outline.parts ++ more) outline.opens

/-- An expression that counts as one no longer, since it stands as a statement. -/
def asStatement (outline : Outline src) : Outline src := .node .statement outline.start [outline]

def name? (outline : Outline src) : Option String :=
  match outline.form with
  | .name text => some text
  | _ => none

def isName (outline : Outline src) : Bool := outline.name?.isSome

def isArrow (outline : Outline src) : Bool := outline.form = .arrow

def join : List (Option String) → Option String
  | part :: parts => do return (← part) ++ (← join parts)
  | [] => some ""

def interleave : List (Option String) → List (Option String) → Option String
  | piece :: pieces, part :: parts => do
    return (← piece) ++ (← part) ++ (← interleave pieces parts)
  | piece :: _, [] => piece
  | [], _ => some ""

mutual

/-- The string an expression stands for, if it is built of literals alone. -/
def fold? : Outline src → Option String
  | .node form _ parts _ =>
    match form with
    | .text value => value
    | .sum => join (foldParts parts)
    | .template pieces => interleave pieces (foldParts parts)
    | .paren => (foldParts parts).head?.join
    | .cast .assertion => none
    | .cast .instantiation => none
    | .cast _ => (foldParts parts).head?.join
    | _ => none

def foldParts : List (Outline src) → List (Option String)
  | [] => []
  | part :: parts => part.fold? :: foldParts parts

end

def propertyName? (property : Outline src) : Option String :=
  match property.form with
  | .property key => key
  | .shorthand name => some name
  | .method key => key
  | _ => none

def propertyNames? : Outline src → Option (List String)
  | .node (.object _) _ parts _ => some (parts.filterMap propertyName?)
  | .node .paren _ [inner] _ => inner.propertyNames?
  | _ => none

def positional? (argument : Outline src) : Option (Outline src) :=
  if argument.form = .spread then none else some argument

/-- The target of a chain of accesses, seen through `!`. -/
def isChain : Outline src → Bool
  | .node (.chain _) _ _ _ => true
  | .node (.cast .nonNull) _ (inner :: _) _ => inner.isChain
  | _ => false

/-- Whether a plain value can be stored in what an expression stands for. -/
def isSimpleTarget : Outline src → Bool
  | .node (.name text) _ _ _ => !isFixedName text
  | .node .paren _ (inner :: _) _ => inner.isSimpleTarget
  | .node (.cast kind) _ (inner :: _) _ => kind ≠ .constant && inner.isSimpleTarget
  | .node .member _ (target :: _) _ =>
    match target.form with
    | .member => target.isSimpleTarget
    | .chain _ => false
    | _ => true
  | .node .superMember _ _ _ => true
  | _ => false

/-- Whether an assignment to an expression or a pattern can be read at all. -/
def isTarget (outline : Outline src) : Bool :=
  match outline.form with
  | .name _ => true
  | .member => true
  | .superMember => true
  | .chain _ => true
  | .paren => true
  | .cast kind => kind ≠ .constant
  | .arrayPattern => true
  | .objectPattern => true
  | .invalid => true
  | _ => false

end Outline

structure Invocation (src : Source) where
  callee : String
  start : Nat
  arguments : List (Outline src)

namespace Outline

/-- A call is where its callee is, and a `new` expression where that word is. -/
def invocation? : Outline src → Option (Invocation src)
  | .node (.call arity) _ (callee :: rest) _ =>
    callee.name?.map (⟨·, callee.start, rest.take arity⟩)
  | .node (.creation arity) start (callee :: rest) _ =>
    callee.name?.map (⟨·, start, rest.take arity⟩)
  | _ => none

mutual

/-- The invocations in an outline. Each comes before those among its parts. -/
def invocations : Outline src → List (Invocation src)
  | .node form start parts opens =>
    (invocation? (.node form start parts opens)).toList ++ partsInvocations parts

def partsInvocations : List (Outline src) → List (Invocation src)
  | [] => []
  | part :: parts => part.invocations ++ partsInvocations parts

end

end Outline
end Phrasebook.Script
