import Phrasebook.Proofs.Json.RoundTrip
import Phrasebook.Tree.Json

/-!
Trees and their JSON form. A subtree with an `other` entry is taken for a plural when it is read;
a tree without such subtrees is decoded to itself.
-/
namespace Phrasebook

open Json (membersNesting)

def Phrase.nesting : Phrase → Nat
  | .text _ => 0
  | .plural _ => 1

namespace Tree

/-- How many containers are nested in a tree. The tree itself and every plural count as one. -/
def nesting : Tree → Nat
  | .nil => 1
  | .leaf _ value rest => max (value.nesting + 1) rest.nesting
  | .branch _ children rest => max (children.nesting + 1) rest.nesting

/-- No subtree has an entry that would make it a plural when it is read. -/
def Unambiguous : Tree → Prop
  | .nil => True
  | .leaf _ _ rest => rest.Unambiguous
  | .branch _ children rest =>
    Plural.otherForm ∉ children.keys ∧ children.Unambiguous ∧ rest.Unambiguous

def TextsOnly : Tree → Prop
  | .nil => True
  | .leaf _ (.text _) rest => rest.TextsOnly
  | _ => False

def texts : Tree → List (String × String)
  | .nil => []
  | .leaf key (.text value) rest => (key, value) :: rest.texts
  | .leaf _ (.plural _) rest => rest.texts
  | .branch _ _ rest => rest.texts

/-- Every subtree that is read as a plural holds nothing but texts. -/
def Legible : Tree → Prop
  | .nil => True
  | .leaf _ _ rest => rest.Legible
  | .branch _ children rest =>
    (if Plural.otherForm ∈ children.keys then children.TextsOnly else children.Legible) ∧
      rest.Legible

def reread : Tree → Tree
  | .nil => .nil
  | .leaf key value rest => .leaf key value rest.reread
  | .branch key children rest =>
    if Plural.otherForm ∈ children.keys then .leaf key (.plural ⟨children.texts⟩) rest.reread
    else .branch key children.reread rest.reread

@[simp] theorem keys_nil : nil.keys = [] := rfl

@[simp] theorem keys_leaf (key : String) (value : Phrase) (rest : Tree) :
    (leaf key value rest).keys = key :: rest.keys := rfl

@[simp] theorem keys_branch (key : String) (children rest : Tree) :
    (branch key children rest).keys = key :: rest.keys := rfl

@[simp] theorem keys_cons (key : String) (node : Node) (rest : Tree) :
    (cons key node rest).keys = key :: rest.keys := by
  cases node <;> rfl

@[simp] theorem keys_reread (t : Tree) : t.reread.keys = t.keys := by
  induction t with
  | nil => rfl
  | leaf key value rest ih => simp [reread, ih]
  | branch key children rest _ ih =>
    rw [reread]
    split_ifs <;> simp [ih]

theorem Unambiguous.legible {t : Tree} (h : t.Unambiguous) : t.Legible := by
  induction t with
  | nil => trivial
  | leaf key value rest ih => exact ih h
  | branch key children rest ihc ihr =>
    obtain ⟨hkeys, hc, hr⟩ := h
    rw [Legible, if_neg hkeys]
    exact ⟨ihc hc, ihr hr⟩

theorem reread_eq_self_iff {t : Tree} : t.reread = t ↔ t.Unambiguous := by
  induction t with
  | nil => simp [reread, Unambiguous]
  | leaf key value rest ih => simp [reread, Unambiguous, ih]
  | branch key children rest ihc ihr =>
    by_cases hkeys : Plural.otherForm ∈ children.keys
    · simp [reread, Unambiguous, hkeys]
    · simp [reread, Unambiguous, hkeys, ihc, ihr]

@[simp] theorem map_fst_members (t : Tree) : t.members.map Prod.fst = t.keys := by
  induction t with
  | nil => rfl
  | leaf key value rest ih => simp [members, ih]
  | branch key children rest _ ih => simp [members, ih]

end Tree

def formMembers (forms : List (String × String)) : List (String × Json.Value) :=
  forms.map fun form => (form.1, .string form.2)

@[simp] theorem map_fst_formMembers (forms : List (String × String)) :
    (formMembers forms).map Prod.fst = forms.map Prod.fst := by
  simp [formMembers]

theorem Plural.toJson_eq (record : Plural) : record.toJson = .object (formMembers record.forms) :=
  rfl

theorem Plural.nesting_toJson (record : Plural) : record.toJson.nesting = 1 := by
  have hforms (forms : List (String × String)) : membersNesting (formMembers forms) = 0 := by
    induction forms with
    | nil => rfl
    | cons form forms ih =>
      rw [formMembers] at ih
      simp [formMembers, membersNesting, Json.Value.nesting, ih]
  rw [toJson_eq, Json.Value.nesting, hforms]

theorem Phrase.nesting_toJson (value : Phrase) : value.toJson.nesting = value.nesting := by
  cases value with
  | text value => rfl
  | plural record => exact record.nesting_toJson

theorem Tree.nesting_toJson (t : Tree) : t.toJson.nesting = t.nesting := by
  rw [toJson, Json.Value.nesting]
  induction t with
  | nil => rfl
  | leaf key value rest ih =>
    rw [members, membersNesting, nesting, ← ih, value.nesting_toJson]
    omega
  | branch key children rest ihc ihr =>
    rw [members, membersNesting, nesting, ← ihc, ← ihr, Json.Value.nesting]
    omega

theorem Plural.textual_toJson {record : Plural} (h : record.WellFormed) :
    record.toJson.Textual := by
  rw [toJson_eq]
  refine .object ?_ ?_
  · rw [Assoc.Unique, map_fst_formMembers]
    exact h.1
  · intro m hm
    obtain ⟨form, -, rfl⟩ := List.mem_map.mp hm
    exact .string form.2

theorem Phrase.textual_toJson {value : Phrase} (h : value.WellFormed) : value.toJson.Textual := by
  cases value with
  | text value => exact .string value
  | plural record => exact Plural.textual_toJson h

namespace Tree

theorem WellFormed.nodup_keys {t : Tree} (h : t.WellFormed) : t.keys.Nodup := by
  induction t with
  | nil => exact List.nodup_nil
  | leaf key value rest ih => exact List.nodup_cons.mpr ⟨h.1, ih h.2.2⟩
  | branch key children rest _ ih => exact List.nodup_cons.mpr ⟨h.1, ih h.2.2⟩

theorem textual_toJson {t : Tree} (h : t.WellFormed) : t.toJson.Textual := by
  have hinner : ∀ m ∈ t.members, m.2.Textual := by
    induction t with
    | nil => simp [members]
    | leaf key value rest ih =>
      rw [members, List.forall_mem_cons]
      exact ⟨Phrase.textual_toJson h.2.1, ih h.2.2⟩
    | branch key children rest ihc ihr =>
      rw [members, List.forall_mem_cons]
      refine ⟨.object ?_ (ihc h.2.1), ihr h.2.2⟩
      simpa [Assoc.Unique] using h.2.1.nodup_keys
  exact .object (by simpa [Assoc.Unique] using h.nodup_keys) hinner

theorem decodeForms_formMembers (key : String) (forms : List (String × String)) :
    decodeForms key (formMembers forms) = .ok forms := by
  induction forms with
  | nil => rfl
  | cons form forms ih =>
    rw [formMembers] at ih
    simp [formMembers, decodeForms, ih, Except.map]

theorem decodeForms_members {key : String} {t : Tree} {forms : List (String × String)} :
    decodeForms key t.members = .ok forms ↔ t.TextsOnly ∧ t.texts = forms := by
  induction t generalizing forms with
  | nil => simp [members, decodeForms, TextsOnly, texts]
  | leaf k value rest ih =>
    cases value with
    | plural record => simp [members, Phrase.toJson, Plural.toJson, decodeForms, TextsOnly]
    | text value =>
      simp only [members, Phrase.toJson, decodeForms, TextsOnly, texts, map_eq_ok_iff, ih]
      constructor
      · rintro ⟨-, ⟨honly, rfl⟩, rfl⟩
        exact ⟨honly, rfl⟩
      · rintro ⟨honly, rfl⟩
        exact ⟨rest.texts, ⟨honly, rfl⟩, rfl⟩
  | branch k children rest => simp [members, decodeForms, TextsOnly]

theorem decodeNode_phrase {value : Phrase} (h : value.WellFormed) (key : String) :
    decodeNode key value.toJson = .ok (.leaf value) := by
  cases value with
  | text value => simp [Phrase.toJson, decodeNode, Node.text]
  | plural record =>
    have hother : ((formMembers record.forms).lookup Plural.otherForm).isSome := by
      rw [Assoc.lookup_isSome_iff, map_fst_formMembers]
      exact h.2
    rw [Phrase.toJson, Plural.toJson_eq, decodeNode, if_pos hother, decodeForms_formMembers]
    rfl

theorem decodeMembers_cons_iff {parent key : String} {value : Json.Value}
    {members : List (String × Json.Value)} {t : Tree} :
    decodeMembers parent ((key, value) :: members) = .ok t ↔
      ∃ node rest, decodeNode (dotted parent key) value = .ok node ∧
        decodeMembers parent members = .ok rest ∧ cons key node rest = t := by
  rw [decodeMembers]
  cases hnode : decodeNode (dotted parent key) value with
  | error e => simp
  | ok node => simp [map_eq_ok_iff]

/-- What a written tree is decoded to, if it is legible. -/
theorem decodeMembers_members {t read : Tree} (h : t.WellFormed) (parent : String) :
    decodeMembers parent t.members = .ok read ↔ t.Legible ∧ t.reread = read := by
  induction t generalizing parent read with
  | nil => simp [members, decodeMembers, Legible, reread]
  | leaf key value rest ih =>
    simp only [members, decodeMembers_cons_iff, decodeNode_phrase h.2.1, ih h.2.2, Legible, reread]
    constructor
    · rintro ⟨-, -, ⟨⟩, ⟨hlegible, rfl⟩, rfl⟩
      exact ⟨hlegible, rfl⟩
    · rintro ⟨hlegible, rfl⟩
      exact ⟨_, rest.reread, rfl, ⟨hlegible, rfl⟩, rfl⟩
  | branch key children rest ihc ihr =>
    have hother : (children.members.lookup Plural.otherForm).isSome ↔
        Plural.otherForm ∈ children.keys := by
      rw [Assoc.lookup_isSome_iff, map_fst_members]
    simp only [members, decodeMembers_cons_iff, decodeNode, hother, ihr h.2.2, Legible, reread]
    by_cases hkeys : Plural.otherForm ∈ children.keys
    · simp only [if_pos hkeys, map_eq_ok_iff, decodeForms_members]
      constructor
      · rintro ⟨-, -, ⟨-, ⟨honly, rfl⟩, rfl⟩, ⟨hlegible, rfl⟩, rfl⟩
        exact ⟨⟨honly, hlegible⟩, rfl⟩
      · rintro ⟨⟨honly, hlegible⟩, rfl⟩
        exact ⟨_, _, ⟨_, ⟨honly, rfl⟩, rfl⟩, ⟨hlegible, rfl⟩, rfl⟩
    · simp only [if_neg hkeys, map_eq_ok_iff, ihc h.2.1]
      constructor
      · rintro ⟨-, -, ⟨-, ⟨hchildren, rfl⟩, rfl⟩, ⟨hlegible, rfl⟩, rfl⟩
        exact ⟨⟨hchildren, hlegible⟩, rfl⟩
      · rintro ⟨⟨hchildren, hlegible⟩, rfl⟩
        exact ⟨_, _, ⟨_, ⟨hchildren, rfl⟩, rfl⟩, ⟨hlegible, rfl⟩, rfl⟩

theorem ofJson_toJson {t read : Tree} (h : t.WellFormed) :
    ofJson t.toJson = .ok read ↔ t.Legible ∧ t.reread = read :=
  decodeMembers_members h ""

end Tree

/-- A node as part of a decoded tree: well formed, and no subtree that should be a plural. -/
def Node.Decoded : Node → Prop
  | .leaf value => value.WellFormed
  | .subtree children =>
    children.WellFormed ∧ Plural.otherForm ∉ children.keys ∧ children.Unambiguous

theorem Node.Decoded.wellFormed {node : Node} (h : node.Decoded) : node.WellFormed := by
  cases node with
  | leaf value => exact h
  | subtree children => exact h.1

namespace Tree

theorem wellFormed_cons_iff {key : String} {node : Node} {rest : Tree} :
    (cons key node rest).WellFormed ↔ key ∉ rest.keys ∧ node.WellFormed ∧ rest.WellFormed := by
  cases node <;> rfl

theorem unambiguous_cons {key : String} {node : Node} {rest : Tree} (hnode : node.Decoded)
    (hrest : rest.Unambiguous) : (cons key node rest).Unambiguous := by
  cases node with
  | leaf value => exact hrest
  | subtree children => exact ⟨hnode.2.1, hnode.2.2, hrest⟩

theorem members_cons (key : String) (node : Node) (rest : Tree) :
    (cons key node rest).members = (key, node.toJson) :: rest.members := by
  cases node <;> rfl

theorem eq_of_decodeForms {key : String} {members : List (String × Json.Value)}
    {forms : List (String × String)} (h : decodeForms key members = .ok forms) :
    members = formMembers forms := by
  induction members generalizing forms with
  | nil => cases h; rfl
  | cons m members ih =>
    obtain ⟨form, value⟩ := m
    cases value with
    | string text =>
      obtain ⟨rest, hrest, rfl⟩ := map_eq_ok_iff.mp h
      rw [ih hrest]
      rfl
    | _ => cases h

mutual

/-- A decoded node holds all of its JSON value, and is in good shape. -/
theorem decoded_of_decodeNode {key : String} {value : Json.Value} {node : Node}
    (hkeys : value.KeysUnique) (h : decodeNode key value = .ok node) :
    node.Decoded ∧ node.toJson = value := by
  match value, hkeys with
  | .string text, _ =>
    cases h
    exact ⟨trivial, rfl⟩
  | .object members, .object hunique hinner =>
    rw [decodeNode] at h
    split_ifs at h with hother
    · obtain ⟨forms, hforms, rfl⟩ := map_eq_ok_iff.mp h
      rw [Assoc.lookup_isSome_iff] at hother
      obtain rfl := eq_of_decodeForms hforms
      rw [Assoc.Unique, map_fst_formMembers] at hunique
      rw [map_fst_formMembers] at hother
      exact ⟨⟨hunique, hother⟩, rfl⟩
    · obtain ⟨children, hchildren, rfl⟩ := map_eq_ok_iff.mp h
      obtain ⟨hwf, hunamb, hmembers⟩ := decoded_of_decodeMembers hunique hinner hchildren
      rw [Assoc.lookup_isSome_iff, ← hmembers, map_fst_members] at hother
      exact ⟨⟨hwf, hother, hunamb⟩, by rw [Node.toJson, toJson, hmembers]⟩
  | .null, _ | .bool _, _ | .number _, _ | .array _, _ => cases h

theorem decoded_of_decodeMembers {parent : String} {members : List (String × Json.Value)}
    {t : Tree} (hunique : Assoc.Unique members) (hinner : ∀ m ∈ members, m.2.KeysUnique)
    (h : decodeMembers parent members = .ok t) :
    t.WellFormed ∧ t.Unambiguous ∧ t.members = members := by
  match members with
  | [] =>
    cases h
    exact ⟨trivial, trivial, rfl⟩
  | (key, value) :: members =>
    obtain ⟨node, rest, hnode, hrest, rfl⟩ := decodeMembers_cons_iff.mp h
    obtain ⟨hdecoded, hvalue⟩ := decoded_of_decodeNode (hinner (key, value) (by simp)) hnode
    obtain ⟨hfresh, hunique⟩ := List.nodup_cons.mp hunique
    obtain ⟨hwf, hunamb, hmembers⟩ := decoded_of_decodeMembers hunique
      (fun m hm => hinner m (by simp [hm])) hrest
    rw [← hmembers, map_fst_members] at hfresh
    exact ⟨wellFormed_cons_iff.mpr ⟨hfresh, hdecoded.wellFormed, hwf⟩,
      unambiguous_cons hdecoded hunamb, by rw [members_cons, hvalue, hmembers]⟩

end

theorem decoded_of_ofJson {value : Json.Value} {t : Tree} (hkeys : value.KeysUnique)
    (h : ofJson value = .ok t) : t.WellFormed ∧ t.Unambiguous ∧ t.toJson = value := by
  match value, hkeys with
  | .object members, .object hunique hinner =>
    obtain ⟨hwf, hunamb, hmembers⟩ := decoded_of_decodeMembers hunique hinner h
    exact ⟨hwf, hunamb, by rw [toJson, hmembers]⟩
  | .null, _ | .bool _, _ | .number _, _ | .string _, _ | .array _, _ => cases h

end Tree
end Phrasebook
