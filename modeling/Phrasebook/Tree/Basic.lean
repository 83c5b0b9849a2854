import Phrasebook.Assoc

/-!
Phrase trees: the phrases of one language under nested keys. Entries are kept in insertion order,
which is the order they are written in.
-/
namespace Phrasebook

structure Plural where
  forms : List (String × String)
  deriving DecidableEq, Repr, Inhabited

namespace Plural

def otherForm : String := "other"

def oneForm : String := "one"

def ofForms (other : String) (one : Option String) : Plural :=
  ⟨(otherForm, other) :: (one.map (oneForm, ·)).toList⟩

def seeded (key : String) : Plural :=
  ofForms key (some key)

def other (p : Plural) : String :=
  (p.forms.lookup otherForm).getD ""

def one? (p : Plural) : Option String :=
  p.forms.lookup oneForm

def WellFormed (p : Plural) : Prop :=
  Assoc.Unique p.forms ∧ otherForm ∈ p.forms.map Prod.fst

end Plural

inductive Phrase where
  | text (value : String)
  | plural (record : Plural)
  deriving DecidableEq, Repr, Inhabited

namespace Phrase

/-- The text placeholders are checked against: the text itself, or the `other` form. -/
def primary : Phrase → String
  | .text value => value
  | .plural record => record.other

def strings : Phrase → List String
  | .text value => [value]
  | .plural record => record.forms.map Prod.snd

def WellFormed : Phrase → Prop
  | .text _ => True
  | .plural record => record.WellFormed

end Phrase

/-- A sequence of entries. Each has a key and holds a phrase or a tree of its own. -/
inductive Tree where
  | nil
  | leaf (key : String) (value : Phrase) (rest : Tree)
  | branch (key : String) (children rest : Tree)
  deriving DecidableEq, Repr, Inhabited

inductive Node where
  | leaf (value : Phrase)
  | subtree (children : Tree)
  deriving DecidableEq, Repr, Inhabited

inductive NodeKind where
  | phrase
  | subtree
  deriving DecidableEq, Repr

namespace NodeKind

def describe : NodeKind → String
  | .phrase => "translation"
  | .subtree => "subtree"

end NodeKind

namespace Node

def text (value : String) : Node := .leaf (.text value)

def plural (record : Plural) : Node := .leaf (.plural record)

def kind : Node → NodeKind
  | .leaf _ => .phrase
  | .subtree _ => .subtree

def leaf? : Node → Option Phrase
  | .leaf value => some value
  | .subtree _ => none

def text? : Node → Option String
  | .leaf (.text value) => some value
  | _ => none

/-- Only an empty text is no usable value. -/
def hasValue : Node → Bool
  | .leaf (.text value) => !value.isEmpty
  | _ => true

end Node

namespace Tree

def cons (key : String) : Node → Tree → Tree
  | .leaf value, rest => .leaf key value rest
  | .subtree children, rest => .branch key children rest

def entries : Tree → List (String × Node)
  | .nil => []
  | .leaf key value rest => (key, .leaf value) :: rest.entries
  | .branch key children rest => (key, .subtree children) :: rest.entries

def keys (t : Tree) : List String :=
  t.entries.map Prod.fst

def size (t : Tree) : Nat :=
  t.entries.length

def isEmpty : Tree → Bool
  | .nil => true
  | _ => false

/-- The entry of a top-level key. -/
def find? (key : String) : Tree → Option Node
  | .nil => none
  | .leaf k value rest => if k = key then some (.leaf value) else rest.find? key
  | .branch k children rest => if k = key then some (.subtree children) else rest.find? key

def put (key : String) (node : Node) : Tree → Tree
  | .nil => cons key node .nil
  | .leaf k value rest => if k = key then cons key node rest else .leaf k value (rest.put key node)
  | .branch k children rest =>
    if k = key then cons key node rest else .branch k children (rest.put key node)

def erase (key : String) : Tree → Tree
  | .nil => .nil
  | .leaf k value rest => if k = key then rest else .leaf k value (rest.erase key)
  | .branch k children rest => if k = key then rest else .branch k children (rest.erase key)

/-- Later entries of the same key replace earlier ones in place. -/
def ofEntries (entries : List (String × Node)) : Tree :=
  entries.foldl (fun t (key, node) => t.put key node) .nil

/-- Keys are unique at every level and every plural is well formed. -/
def WellFormed : Tree → Prop
  | .nil => True
  | .leaf key value rest => key ∉ rest.keys ∧ value.WellFormed ∧ rest.WellFormed
  | .branch key children rest => key ∉ rest.keys ∧ children.WellFormed ∧ rest.WellFormed

@[simp] theorem entries_cons (key : String) (node : Node) (rest : Tree) :
    (cons key node rest).entries = (key, node) :: rest.entries := by
  cases node <;> rfl

@[simp] theorem find?_cons (key k : String) (node : Node) (rest : Tree) :
    (cons k node rest).find? key = if k = key then some node else rest.find? key := by
  cases node <;> rfl

theorem find?_put_self (key : String) (node : Node) (t : Tree) :
    (t.put key node).find? key = some node := by
  induction t with
  | nil => simp [put]
  | leaf k v rest ih => by_cases h : k = key <;> simp [put, find?, h, ih]
  | branch k c rest _ ih => by_cases h : k = key <;> simp [put, find?, h, ih]

theorem find?_put_of_ne {key other : String} (h : key ≠ other) (node : Node) (t : Tree) :
    (t.put key node).find? other = t.find? other := by
  induction t with
  | nil => simp [put, find?, h]
  | leaf k v rest ih => by_cases hk : k = key <;> simp_all [put, find?]
  | branch k c rest _ ih => by_cases hk : k = key <;> simp_all [put, find?]

end Tree

def Node.WellFormed : Node → Prop
  | .leaf value => value.WellFormed
  | .subtree children => children.WellFormed

end Phrasebook
