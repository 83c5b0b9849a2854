import Phrasebook.KeyPath
import Phrasebook.Proofs.Json.Paths
import Phrasebook.Proofs.Tree.Encoding

/-!
Decoding a JSON value. It succeeds exactly on the forms of trees, and otherwise the error is about
the first offence in document order.
-/
namespace Phrasebook

open Json (Value)

def Json.Value.IsPlural (value : Value) : Prop :=
  Plural.otherForm ∈ value.keys

inductive Json.Value.IsNode : Value → Prop
  | text (text : String) : IsNode (.string text)
  | plural {members : List (String × Value)} (plural : (Value.object members).IsPlural)
      (texts : ∀ m ∈ members, ∃ text, m.2 = .string text) : IsNode (.object members)
  | subtree {members : List (String × Value)} (subtree : ¬(Value.object members).IsPlural)
      (inner : ∀ m ∈ members, m.2.IsNode) : IsNode (.object members)

def Json.Value.IsTree (value : Value) : Prop :=
  ∃ members, value = .object members ∧ ∀ m ∈ members, m.2.IsNode

/-- Keys joined by dots, except that no dot follows a text that is still empty. -/
def KeyPath.dotted (path : KeyPath) : String :=
  ".".intercalate (path.dropWhile String.isEmpty)

namespace Tree

/-- Whether a path leads through no plural. -/
def Open (root : Value) (path : KeyPath) : Prop :=
  ∀ q, q ≠ [] → q <+: path → ∀ record, root.at? q = some record → ¬record.IsPlural

/-- What is wrong with a value, where, and the error that says so: outside plurals a value that is
neither a text nor an object, and in a plural an entry that is no text. -/
inductive Offence (root : Value) : KeyPath → DecodeError → Prop
  | value {path : KeyPath} {found : Value} (here : root.at? path = some found)
      (below : path ≠ []) (outside : Open root path) (noText : ∀ text, found ≠ .string text)
      (noObject : ∀ members, found ≠ .object members) :
    Offence root path (.unsupported path.dotted found.describeKind)
  | form {path : KeyPath} {form : String} {record found : Value}
      (here : root.at? path = some record) (below : path ≠ []) (plural : record.IsPlural)
      (entry : record.member? form = some found) (noText : ∀ text, found ≠ .string text) :
    Offence root (path ++ [form]) (.formNotString path.dotted form found.describeKind)

section Success

variable {key : String} {members : List (String × Value)}

theorem isNode_plural_iff (h : (Value.object members).IsPlural) :
    (Value.object members).IsNode ↔ ∀ m ∈ members, ∃ text, m.2 = .string text := by
  constructor
  · rintro (_ | ⟨-, htexts⟩ | ⟨hsubtree, -⟩)
    · exact htexts
    · exact absurd h hsubtree
  · exact .plural h

theorem isNode_subtree_iff (h : ¬(Value.object members).IsPlural) :
    (Value.object members).IsNode ↔ ∀ m ∈ members, m.2.IsNode := by
  constructor
  · rintro (_ | ⟨hplural, -⟩ | ⟨-, hinner⟩)
    · exact absurd hplural h
    · exact hinner
  · exact .subtree h

theorem decodeNode_plural (h : (Value.object members).IsPlural) (key : String) :
    decodeNode key (.object members) =
      (decodeForms key members).map fun forms => .plural ⟨forms⟩ := by
  rw [decodeNode, if_pos]
  exact Assoc.lookup_isSome_iff.mpr h

theorem decodeNode_subtree (h : ¬(Value.object members).IsPlural) (key : String) :
    decodeNode key (.object members) = (decodeMembers key members).map .subtree := by
  rw [decodeNode, if_neg]
  exact fun hother => h (Assoc.lookup_isSome_iff.mp hother)

theorem decodeForms_ok_iff (key : String) :
    (∃ forms, decodeForms key members = .ok forms) ↔
      ∀ m ∈ members, ∃ text, m.2 = Value.string text := by
  constructor
  · rintro ⟨forms, hforms⟩ m hm
    rw [eq_of_decodeForms hforms] at hm
    obtain ⟨form, -, rfl⟩ := List.mem_map.mp hm
    exact ⟨form.2, rfl⟩
  · intro htexts
    induction members with
    | nil => exact ⟨[], rfl⟩
    | cons m members ih =>
      obtain ⟨⟨text, htext⟩, hrest⟩ := List.forall_mem_cons.mp htexts
      obtain ⟨forms, hforms⟩ := ih hrest
      obtain ⟨form, value⟩ := m
      subst htext
      exact ⟨(form, text) :: forms, by rw [decodeForms, hforms]; rfl⟩

mutual

theorem decodeNode_ok_iff (key : String) (value : Value) :
    (∃ node, decodeNode key value = .ok node) ↔ value.IsNode := by
  match value with
  | .string text => exact iff_of_true ⟨_, rfl⟩ (.text text)
  | .object members =>
    by_cases hplural : (Value.object members).IsPlural
    · rw [isNode_plural_iff hplural, ← decodeForms_ok_iff key]
      simp [decodeNode_plural hplural, map_eq_ok_iff]
    · rw [isNode_subtree_iff hplural, ← decodeMembers_ok_iff key members]
      simp [decodeNode_subtree hplural, map_eq_ok_iff]
  | .null | .bool _ | .number _ | .array _ =>
    refine iff_of_false ?_ (by rintro ⟨⟩)
    rintro ⟨node, hnode⟩
    cases hnode

theorem decodeMembers_ok_iff (parent : String) (members : List (String × Value)) :
    (∃ t, decodeMembers parent members = .ok t) ↔ ∀ m ∈ members, m.2.IsNode := by
  match members with
  | [] => exact iff_of_true ⟨_, rfl⟩ (by simp)
  | (key, value) :: members =>
    rw [List.forall_mem_cons, ← decodeNode_ok_iff (dotted parent key) value,
      ← decodeMembers_ok_iff parent members]
    simp only [decodeMembers_cons_iff]
    constructor
    · rintro ⟨t, node, rest, hnode, hrest, -⟩
      exact ⟨⟨node, hnode⟩, rest, hrest⟩
    · rintro ⟨⟨node, hnode⟩, rest, hrest⟩
      exact ⟨_, node, rest, hnode, hrest, rfl⟩

end

end Success

section Offences

variable {root value found record : Value} {parent above q : KeyPath} {key form : String}
  {d : DecodeError}

theorem open_nil (root : Value) : Open root [] := by
  intro q hq hpre
  exact absurd (List.prefix_nil.mp hpre) hq

theorem Open.child (h : Open root parent) (hat : root.at? (parent ++ [key]) = some value)
    (hvalue : ¬value.IsPlural) : Open root (parent ++ [key]) := by
  intro q hq hpre record hrecord
  rcases List.prefix_concat_iff.mp hpre with rfl | hpre
  · rw [hat] at hrecord
    cases hrecord
    exact hvalue
  · exact h q hq hpre record hrecord

theorem Offence.at? (h : Offence root q d) :
    ∃ found, root.at? q = some found ∧ ∀ text, found ≠ .string text := by
  cases h with
  | value here below outside noText noObject => exact ⟨_, here, noText⟩
  | form here below plural entry noText => exact ⟨_, (Value.at?_child here _).trans entry, noText⟩

theorem Offence.not_text {text : String} (h : Offence root q d)
    (hat : root.at? above = some (.string text)) : ¬above <+: q := by
  rintro ⟨rest, rfl⟩
  obtain ⟨found, hfound, htext⟩ := h.at?
  rw [Value.at?_append, hat] at hfound
  cases rest with
  | nil => exact htext text (Option.some.inj hfound).symm
  | cons k rest => cases hfound

/-- Outside plurals the only offences are values of the wrong kind. -/
theorem Offence.eq_unsupported (h : Offence root q d) (hopen : Open root q)
    (hat : root.at? q = some value) :
    (∀ members, value ≠ .object members) ∧ d = .unsupported q.dotted value.describeKind := by
  cases h with
  | value here below outside noText noObject =>
    rw [hat] at here
    cases here
    exact ⟨noObject, rfl⟩
  | form here below plural entry noText =>
    exact absurd plural (hopen _ below (List.prefix_append _ _) _ here)

/-- An object that no plural leads to is no offence itself. -/
theorem Offence.not_object {members : List (String × Value)}
    (h : Offence root (parent ++ [key]) d) (hopen : Open root parent) :
    root.at? (parent ++ [key]) ≠ some (.object members) := by
  intro hat
  generalize hq : parent ++ [key] = q at h
  cases h with
  | value here below outside noText noObject =>
    rw [← hq, hat] at here
    cases here
    exact noObject members rfl
  | form here below plural entry noText =>
    obtain ⟨rfl, -⟩ := List.append_singleton_inj.mp hq
    exact hopen _ below (List.prefix_refl _) _ here plural

/-- In a plural the only offences are entries that are no texts. -/
theorem Offence.eq_formNotString (h : Offence root (above ++ [form]) d)
    (hat : root.at? above = some record) (habove : above ≠ []) (hplural : record.IsPlural)
    (hentry : record.member? form = some found) :
    d = .formNotString above.dotted form found.describeKind := by
  generalize hq : above ++ [form] = q at h
  cases h with
  | value here below outside noText noObject =>
    exact absurd hplural (outside above habove ⟨[form], hq⟩ _ hat)
  | form here below plural entry noText =>
    obtain ⟨rfl, rfl⟩ := List.append_singleton_inj.mp hq
    rw [hat] at here
    cases here
    rw [hentry] at entry
    cases entry
    rfl

theorem isNode_of_member? (h : value.IsNode) (hmember : value.member? key = some found) :
    found.IsNode := by
  cases h with
  | text text => cases hmember
  | plural plural texts =>
    obtain ⟨text, rfl⟩ := texts _ (Assoc.mem_of_lookup hmember)
    exact .text text
  | subtree subtree inner => exact inner _ (Assoc.mem_of_lookup hmember)

theorem isNode_of_at? (h : value.IsNode) (hat : value.at? q = some found) : found.IsNode := by
  induction q generalizing value with
  | nil =>
    cases hat
    exact h
  | cons key path ih =>
    obtain ⟨inner, hinner, hat⟩ := Value.at?_cons_eq_some_iff.mp hat
    exact ih (isNode_of_member? h hinner) hat

/-- There is no offence at a node or inside it. -/
theorem Offence.not_node (h : Offence root q d) (hopen : Open root parent)
    (hat : root.at? (parent ++ [key]) = some value) (hnode : value.IsNode) :
    ¬parent ++ [key] <+: q := by
  intro hq
  cases h with
  | value here below outside noText noObject =>
    obtain ⟨rest, rfl⟩ := hq
    rw [Value.at?_append, hat] at here
    cases isNode_of_at? hnode here with
    | text text => exact noText text rfl
    | plural plural texts => exact noObject _ rfl
    | subtree subtree inner => exact noObject _ rfl
  | form here below plural entry noText =>
    -- The record is the node, inside the node, or the parent, which is no plural.
    rcases List.prefix_concat_iff.mp hq with heq | ⟨rest, rfl⟩
    · obtain ⟨rfl, rfl⟩ := List.append_singleton_inj.mp heq
      exact hopen _ below (List.prefix_refl _) _ here plural
    · rw [Value.at?_append, hat] at here
      cases isNode_of_at? hnode here with
      | text text => cases entry
      | plural plural texts =>
        obtain ⟨text, rfl⟩ := texts _ (Assoc.mem_of_lookup entry)
        exact noText text rfl
      | subtree subtree inner => exact subtree plural

end Offences

def FirstOffence (root : Value) (above : KeyPath) (e : DecodeError) : Prop :=
  ∃ path, above <+: path ∧ Offence root path e ∧
    ∀ q d, above <+: q → Offence root q d →
      q = path ∧ d = e ∨ root.address path < root.address q

section First

variable {root value found : Value} {parent above : KeyPath} {key form : String}
  {e : DecodeError} {members done later : List (String × Value)}

theorem dotted_append_singleton (parent : KeyPath) (key : String) :
    dotted parent.dotted key = KeyPath.dotted (parent ++ [key]) := by
  simp only [KeyPath.dotted, List.dropWhile_append]
  cases hparent : parent.dropWhile String.isEmpty with
  | nil =>
    by_cases hkey : key = ""
    · simp [hkey, dotted]
    · simp [hkey, dotted]
  | cons first rest =>
    have hfirst : first ≠ "" := by
      have := List.head_dropWhile_not String.isEmpty (l := parent) (by simp [hparent])
      simpa [hparent] using this
    have hsome : ".".intercalate (first :: rest) ≠ "" := by
      cases rest <;> simp [hfirst]
    rw [dotted, if_neg (by simpa using hsome), if_neg (by simp),
      String.intercalate_append_of_ne_nil (by simp) (by simp), String.intercalate_singleton]

theorem firstOffence_of_unsupported (hat : root.at? (parent ++ [key]) = some value)
    (hopen : Open root parent) (htext : ∀ text, value ≠ .string text)
    (hobject : ∀ members, value ≠ .object members) :
    FirstOffence root (parent ++ [key])
      (.unsupported (parent ++ [key]).dotted value.describeKind) := by
  have hnone (name : String) : value.member? name = none := by
    cases value with
    | object members => exact absurd rfl (hobject members)
    | _ => rfl
  have hhere : Open root (parent ++ [key]) := by
    refine hopen.child hat fun hplural => ?_
    simpa [hnone] using Value.mem_keys_iff.mp hplural
  refine ⟨_, List.prefix_refl _, .value hat (by simp) hhere htext hobject, ?_⟩
  rintro _ d ⟨_ | ⟨k, rest⟩, rfl⟩ hq
  · rw [List.append_nil] at hq ⊢
    exact .inl ⟨rfl, (hq.eq_unsupported hhere hat).2⟩
  · obtain ⟨found, hfound, -⟩ := hq.at?
    rw [Value.at?_append, hat] at hfound
    obtain ⟨inner, hinner, -⟩ := Value.at?_cons_eq_some_iff.mp hfound
    cases (hnone k).symm.trans hinner

/-- The first offence inside an object is the one inside its first member with an offence. -/
theorem firstOffence_of_member (hunique : root.KeysUnique)
    (hat : root.at? above = some (.object (done ++ (key, value) :: later)))
    (hself : ∀ d, ¬Offence root above d)
    (hdone : ∀ m ∈ done, ∀ q d, Offence root q d → ¬above ++ [m.1] <+: q)
    (hfirst : FirstOffence root (above ++ [key]) e) : FirstOffence root above e := by
  obtain ⟨_, ⟨path, rfl⟩, hoffence, hbefore⟩ := hfirst
  rw [List.append_assoc] at hoffence
  refine ⟨_, List.prefix_append _ _, hoffence, ?_⟩
  rintro _ d ⟨_ | ⟨k, rest⟩, rfl⟩ hq
  · rw [List.append_nil] at hq
    exact absurd hq (hself d)
  · obtain ⟨found, hfound, -⟩ := hq.at?
    rw [Value.at?_append, hat] at hfound
    obtain ⟨inner, hinner, -⟩ := Value.at?_cons_eq_some_iff.mp hfound
    have hk := Assoc.mem_of_lookup hinner
    rcases List.mem_append.mp hk with hk | hk
    · exact absurd ⟨rest, List.append_cons .. ▸ rfl⟩ (hdone _ hk _ d hq)
    rcases List.mem_cons.mp hk with heq | hk
    · obtain rfl : k = key := congrArg Prod.fst heq
      simpa using hbefore _ d ⟨rest, by simp⟩ hq
    · have hkeys : (Value.object (done ++ (key, value) :: later)).keys =
          done.map Prod.fst ++ key :: later.map Prod.fst := by
        simp [Value.keys]
      exact .inr (Value.address_lt_beside hunique hat hkeys (List.mem_map_of_mem hk) _ _)

/-- The first offence inside a plural is its first entry that is no text. -/
theorem firstOffence_of_form (hunique : root.KeysUnique)
    (hat : root.at? (parent ++ [key]) = some (.object (done ++ (form, found) :: later)))
    (hopen : Open root parent)
    (hplural : (Value.object (done ++ (form, found) :: later)).IsPlural)
    (hdone : ∀ m ∈ done, ∃ text, m.2 = Value.string text)
    (hfound : ∀ text, found ≠ .string text) :
    FirstOffence root (parent ++ [key])
      (.formNotString (parent ++ [key]).dotted form found.describeKind) := by
  have hbelow : parent ++ [key] ≠ [] := by simp
  have hform : root.at? (parent ++ [key] ++ [form]) = some found :=
    hunique.at?_member (m := (form, found)) hat (by simp)
  have hentry := (Value.at?_child hat form).symm.trans hform
  have hoffence := Offence.form hat hbelow hplural hentry hfound
  refine firstOffence_of_member hunique hat ?_ ?_ ⟨_, List.prefix_refl _, hoffence, ?_⟩
  · exact fun d hd => hd.not_object hopen hat
  · intro m hm q d hd
    obtain ⟨text, htext⟩ := hdone m hm
    exact hd.not_text (htext ▸ hunique.at?_member hat (List.mem_append_left _ hm))
  · rintro _ d ⟨_ | ⟨k, rest⟩, rfl⟩ hd
    · rw [List.append_nil] at hd ⊢
      exact .inl ⟨rfl, hd.eq_formNotString hat hbelow hplural hentry⟩
    · exact .inr (Value.address_lt_inside hform k rest)

theorem eq_of_decodeForms_error {text : String} (h : decodeForms text members = .error e) :
    ∃ done form found later, members = done ++ (form, found) :: later ∧
      (∀ m ∈ done, ∃ text, m.2 = Value.string text) ∧ (∀ text, found ≠ .string text) ∧
      e = .formNotString text form found.describeKind := by
  induction members with
  | nil => cases h
  | cons m members ih =>
    obtain ⟨form, found⟩ := m
    cases found with
    | string value =>
      rw [decodeForms] at h
      obtain ⟨done, bad, found, later, rfl, hdone, hbad⟩ := ih (map_eq_error_iff.mp h)
      refine ⟨(form, .string value) :: done, bad, found, later, rfl, ?_, hbad⟩
      exact List.forall_mem_cons.mpr ⟨⟨value, rfl⟩, hdone⟩
    | _ =>
      cases h
      exact ⟨[], form, _, members, rfl, by simp, by simp, rfl⟩

mutual

theorem firstOffence_of_decodeNode (hunique : root.KeysUnique) (parent : KeyPath) (key : String)
    (value : Value) (hat : root.at? (parent ++ [key]) = some value) (hopen : Open root parent)
    (h : decodeNode (parent ++ [key]).dotted value = .error e) :
    FirstOffence root (parent ++ [key]) e := by
  match value with
  | .string text => cases h
  | .object members =>
    by_cases hplural : (Value.object members).IsPlural
    · rw [decodeNode_plural hplural, map_eq_error_iff] at h
      obtain ⟨done, form, found, later, rfl, hdone, hfound, rfl⟩ := eq_of_decodeForms_error h
      exact firstOffence_of_form hunique hat hopen hplural hdone hfound
    · rw [decodeNode_subtree hplural, map_eq_error_iff] at h
      exact firstOffence_of_decodeMembers hunique _ [] members hat (hopen.child hat hplural)
        (by simp) h
  | .null | .bool _ | .number _ | .array _ =>
    cases h
    exact firstOffence_of_unsupported hat hopen (by simp) (by simp)

theorem firstOffence_of_decodeMembers (hunique : root.KeysUnique) (above : KeyPath)
    (done members : List (String × Value))
    (hat : root.at? above = some (.object (done ++ members))) (hopen : Open root above)
    (hdone : ∀ m ∈ done, m.2.IsNode) (h : decodeMembers above.dotted members = .error e) :
    FirstOffence root above e := by
  match members with
  | [] => cases h
  | (key, value) :: members =>
    have hvalue : root.at? (above ++ [key]) = some value :=
      hunique.at?_member (m := (key, value)) hat (by simp)
    rw [decodeMembers, dotted_append_singleton] at h
    split at h
    case h_1 e' hnode =>
      cases h
      have hfirst := firstOffence_of_decodeNode hunique above key value hvalue hopen hnode
      refine firstOffence_of_member hunique hat ?_ ?_ hfirst
      · intro d hd
        exact (hd.eq_unsupported hopen hat).1 _ rfl
      · intro m hm q d hd
        have hnode := hunique.at?_member hat (List.mem_append_left _ hm)
        exact hd.not_node hopen hnode (hdone m hm)
    case h_2 node hnode =>
      rw [map_eq_error_iff] at h
      refine firstOffence_of_decodeMembers hunique above (done ++ [(key, value)]) members ?_ hopen
        ?_ h
      · simpa using hat
      · intro m hm
        rcases List.mem_append.mp hm with hm | hm
        · exact hdone m hm
        · rw [List.mem_singleton.mp hm]
          exact (decodeNode_ok_iff _ value).mp ⟨node, hnode⟩

end

theorem FirstOffence.unique {d : DecodeError} (h : FirstOffence root above e)
    (h' : FirstOffence root above d) : e = d := by
  obtain ⟨p, hp, hpoff, hpfirst⟩ := h
  obtain ⟨q, hq, hqoff, hqfirst⟩ := h'
  rcases hpfirst q d hq hqoff with ⟨-, heq⟩ | hlt
  · exact heq.symm
  rcases hqfirst p e hp hpoff with ⟨-, heq⟩ | hgt
  · exact heq
  · exact absurd hgt (List.lt_asymm hlt)

theorem not_offence_of_isTree {q : KeyPath} {d : DecodeError} (htree : root.IsTree) :
    ¬Offence root q d := by
  obtain ⟨members, rfl, hnodes⟩ := htree
  intro h
  obtain ⟨found, hfound, -⟩ := h.at?
  cases q with
  | nil => exact (h.eq_unsupported (open_nil _) rfl).1 members rfl
  | cons key rest =>
    obtain ⟨inner, hinner, -⟩ := Value.at?_cons_eq_some_iff.mp hfound
    have hat : (Value.object members).at? ([] ++ [key]) = some inner :=
      (Value.at?_child rfl key).trans hinner
    exact h.not_node (open_nil _) hat (hnodes _ (Assoc.mem_of_lookup hinner)) ⟨rest, rfl⟩

end First

/-- A value is decoded exactly when it has the form of a tree, and then it is what is written for
that tree. Any other object is refused with the error about its first offence. -/
theorem ofJson_blames_first_offence (value : Value) (hunique : value.KeysUnique) :
    ((∃ t, ofJson value = .ok t) ↔ value.IsTree) ∧
      (∀ t, ofJson value = .ok t → t.toJson = value) ∧
      ∀ members, value = .object members →
        ∀ e, ofJson value = .error e ↔ FirstOffence value [] e := by
  have haccepts : (∃ t, ofJson value = .ok t) ↔ value.IsTree := by
    cases value with
    | object members => simp [ofJson, decodeMembers_ok_iff, Value.IsTree]
    | _ => simp [ofJson, Value.IsTree]
  refine ⟨haccepts, fun t h => (decoded_of_ofJson hunique h).2.2, ?_⟩
  rintro members rfl e
  have hblames (d : DecodeError) (h : ofJson (.object members) = .error d) :
      FirstOffence (.object members) [] d :=
    firstOffence_of_decodeMembers hunique [] [] members rfl (open_nil _) (by simp) h
  refine ⟨hblames e, fun h => ?_⟩
  cases hread : ofJson (.object members) with
  | ok t =>
    obtain ⟨path, -, hoffence, -⟩ := h
    exact absurd hoffence (not_offence_of_isTree (haccepts.mp ⟨t, hread⟩))
  | error d => rw [(hblames d hread).unique h]

/-- The entry of a plural deep inside the first member comes before the second member. -/
theorem deep_offence_comes_first :
    let value : Value := .object [("menu", .object [("open", .object [("other", .null)])]),
      ("title", .array [])]
    value.KeysUnique ∧ FirstOffence value [] (.formNotString "menu.open" "other" "null") := by
  intro value
  have hunique : value.KeysUnique := by
    refine .object (by simp [Assoc.Unique]) ?_
    simp only [List.forall_mem_cons]
    refine ⟨.object (by simp [Assoc.Unique]) ?_, .array (by simp), by simp⟩
    simp only [List.forall_mem_cons]
    exact ⟨.object (by simp [Assoc.Unique]) (by simpa using .null), by simp⟩
  exact ⟨hunique, ((ofJson_blames_first_offence value hunique).2.2 _ rfl _).mp rfl⟩

end Tree
end Phrasebook
