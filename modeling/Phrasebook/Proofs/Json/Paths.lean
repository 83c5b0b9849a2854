import Mathlib.Data.List.Nodup
import Phrasebook.Proofs.Json.Reading

/-!
Paths of keys into JSON values, and the order of the document on them.
-/
namespace Phrasebook.Json.Value

variable {root value inner found : Value} {path above : List String} {key : String}

def keys : Value → List String
  | .object members => members.map Prod.fst
  | _ => []

def at? (value : Value) : List String → Option Value
  | [] => some value
  | key :: path => (value.member? key).bind (at? · path)

/-- How many members stand before a path on each of its levels. Addresses are compared number by
number, so a value comes before what is inside it. -/
def address (value : Value) : List String → List Nat
  | [] => []
  | key :: path =>
    value.keys.idxOf key :: ((value.member? key).map (address · path)).getD []

theorem at?_cons_eq_some_iff {path : List String} :
    value.at? (key :: path) = some found ↔
      ∃ inner, value.member? key = some inner ∧ inner.at? path = some found :=
  Option.bind_eq_some_iff

theorem mem_keys_iff : key ∈ value.keys ↔ (value.member? key).isSome := by
  cases value with
  | object members => exact Assoc.lookup_isSome_iff.symm
  | _ => simp [keys, member?]

theorem KeysUnique.nodup_keys (h : value.KeysUnique) : value.keys.Nodup := by
  cases h with
  | object unique _ => exact unique
  | _ => exact List.nodup_nil

theorem KeysUnique.member? (h : value.KeysUnique) (hmember : value.member? key = some inner) :
    inner.KeysUnique := by
  cases h with
  | object unique inner => exact inner _ ((Assoc.mem_iff_lookup unique).mpr hmember)
  | _ => cases hmember

theorem KeysUnique.at? (h : root.KeysUnique) (hat : root.at? above = some value) :
    value.KeysUnique := by
  induction above generalizing root with
  | nil =>
    cases hat
    exact h
  | cons key above ih =>
    obtain ⟨inner, hinner, hat⟩ := at?_cons_eq_some_iff.mp hat
    exact ih (h.member? hinner) hat

theorem at?_append (value : Value) (p q : List String) :
    value.at? (p ++ q) = (value.at? p).bind (·.at? q) := by
  induction p generalizing value with
  | nil => rfl
  | cons key p ih =>
    rw [List.cons_append, at?, at?, Option.bind_assoc]
    exact Option.bind_congr fun inner _ => ih inner

theorem at?_child (h : root.at? above = some value) (key : String) :
    root.at? (above ++ [key]) = value.member? key := by
  rw [at?_append, h, Option.bind_some, at?]
  exact Option.bind_fun_some _

theorem KeysUnique.at?_member {members : List (String × Value)} (hunique : root.KeysUnique)
    (h : root.at? above = some (.object members)) {m : String × Value} (hm : m ∈ members) :
    root.at? (above ++ [m.1]) = some m.2 := by
  rw [at?_child h]
  cases hunique.at? h with
  | object unique inner => exact (Assoc.mem_iff_lookup unique).mp hm

theorem address_append (h : root.at? above = some value) (path : List String) :
    root.address (above ++ path) = root.address above ++ value.address path := by
  induction above generalizing root with
  | nil =>
    cases h
    rfl
  | cons key above ih =>
    obtain ⟨inner, hinner, h⟩ := at?_cons_eq_some_iff.mp h
    simp [address, hinner, ih h]

/-- A value stands before what is inside it. -/
theorem address_lt_inside (h : root.at? above = some value) (key : String) (path : List String) :
    root.address above < root.address (above ++ key :: path) := by
  rw [address_append h, address]
  calc root.address above = root.address above ++ [] := (List.append_nil _).symm
    _ < _ := List.append_left_lt (List.nil_lt_cons _ _)

theorem idxOf_lt_idxOf {before after : List String} {k j : String}
    (h : (before ++ k :: after).Nodup) (hj : j ∈ after) :
    (before ++ k :: after).idxOf k < (before ++ k :: after).idxOf j := by
  obtain ⟨-, hafter, hapart⟩ := List.nodup_append.mp h
  have hk : k ∉ before := fun hmem => hapart k hmem k List.mem_cons_self rfl
  have hjb : j ∉ before := fun hmem => hapart j hmem j (List.mem_cons_of_mem k hj) rfl
  have hne : k ≠ j := by
    rintro rfl
    exact (List.nodup_cons.mp hafter).1 hj
  rw [List.idxOf_append_of_notMem hk, List.idxOf_append_of_notMem hjb, List.idxOf_cons_self,
    List.idxOf_cons_ne _ hne]
  omega

/-- Members stand in the order of their keys, whatever is inside them. -/
theorem address_lt_beside (hunique : root.KeysUnique) (h : root.at? above = some value)
    {before after : List String} {k j : String} (hkeys : value.keys = before ++ k :: after)
    (hj : j ∈ after) (p q : List String) :
    root.address (above ++ k :: p) < root.address (above ++ j :: q) := by
  have hlt := idxOf_lt_idxOf (hkeys ▸ (hunique.at? h).nodup_keys) hj
  rw [address_append h, address_append h, address, address, hkeys]
  exact List.append_left_lt (List.cons_lt_cons_iff.mpr (.inl hlt))

end Phrasebook.Json.Value
