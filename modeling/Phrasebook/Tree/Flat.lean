import Phrasebook.Tree.Merge

/-!
The flat encoding: one level of entries whose keys are joined by the separator, with plural forms as
sibling variants (`files|one`, `files|other`). It is normalised into nested form.
-/
namespace Phrasebook.Tree

/-- Whether a stored key is joined by the separator. -/
def isJoined (separator key : String) : Bool :=
  !separator.isEmpty && Text.contains separator.toList key.toList

def isFlat (separator : String) (t : Tree) : Bool :=
  t.keys.any (isJoined separator)

/-- The segments of a stored key, which is never unescaped. -/
def splitKey (separator key : String) : KeyPath :=
  (Text.splitOn separator.toList key.toList).map String.ofList

/-- The forms of a subtree whose children are all texts. -/
def textForms? : Tree → Option (List (String × String))
  | .nil => some []
  | .leaf key (.text value) rest => rest.textForms?.map ((key, value) :: ·)
  | _ => none

/-- The plural a subtree stands for: its children are texts and one of them is `other`. -/
def plural? (t : Tree) : Option Plural :=
  t.textForms?.bind fun forms =>
    if (forms.lookup Plural.otherForm).isSome then some ⟨forms⟩ else none

/-- Turns the outermost subtrees below this level that stand for a plural into leaves. -/
def collapse : Tree → Tree
  | .nil => .nil
  | .leaf key value rest => .leaf key value rest.collapse
  | .branch key children rest =>
    match children.plural? with
    | some record => .leaf key (.plural record) rest.collapse
    | none => .branch key children.collapse rest.collapse

def collapseAt (bases : List String) : Tree → Tree
  | .nil => .nil
  | .leaf key value rest => .leaf key value (rest.collapseAt bases)
  | .branch key children rest =>
    let rest' := rest.collapseAt bases
    if key ∈ bases then
      match children.plural? with
      | some record => .leaf key (.plural record) rest'
      | none => .branch key children.collapse rest'
    else .branch key children rest'

/-- An expansion in progress: the tree so far, the plain keys dropped in favour of joined variants,
and the base keys that joined keys were placed under. -/
structure Expansion where
  tree : Tree
  superseded : List String
  bases : List String
  deriving DecidableEq, Repr

namespace Expansion

def start : Expansion := ⟨.nil, [], []⟩

/-- Adds an entry with a plain key. A leaf gives way to the joined variants already placed under its
key; a subtree is merged with them. -/
def addPlain (e : Expansion) (key : String) (node : Node) : Expansion :=
  match e.tree.find? key, node with
  | some (.subtree _), .leaf _ => { e with superseded := e.superseded ++ [key] }
  | some (.subtree mine), .subtree children =>
    { e with tree := e.tree.put key (.subtree (mine.merge children)) }
  | _, _ => { e with tree := e.tree.put key node }

/-- Drops the plain text in the way of a joined key. -/
def supersede (e : Expansion) (base : String) : Expansion :=
  match e.tree.find? base with
  | some (.leaf (.text _)) =>
    { e with tree := e.tree.erase base, superseded := e.superseded ++ [base] }
  | _ => e

/-- Adds an entry with a joined key along its path, or verbatim where it collides. -/
def addJoined (separator : String) (e : Expansion) (key : String) (node : Node) : Expansion :=
  let base := KeyPath.baseKey separator key
  let e := e.supersede base
  match e.tree.set (splitKey separator key) node with
  | .ok tree => { e with tree, bases := base :: e.bases }
  | .error _ => { e with tree := e.tree.put key node }

def add (separator : String) (e : Expansion) (entry : String × Node) : Expansion :=
  if isJoined separator entry.1 then e.addJoined separator entry.1 entry.2
  else e.addPlain entry.1 entry.2

end Expansion

/-- The nested form of a tree, and the plain top-level leaves dropped because a joined variant of
the same key exists. A tree without joined keys is left alone. -/
def expandFlat (separator : String) (t : Tree) : Tree × List String :=
  if t.isFlat separator then
    let e := t.entries.foldl (Expansion.add separator) .start
    (e.tree.collapseAt e.bases, e.superseded)
  else (t, [])

end Phrasebook.Tree
