import Mathlib.Tactic.Common
import Phrasebook.Json.Parser

/-!
What reading a JSON text can return, whatever the text: no object has a key twice, and containers
are not nested beyond the limit.
-/
namespace Phrasebook

theorem map_eq_ok_iff {ε α β : Type} {result : Except ε α} {f : α → β} {b : β} :
    result.map f = .ok b ↔ ∃ a, result = .ok a ∧ f a = b := by
  cases result <;> simp [Except.map]

theorem map_eq_error_iff {ε α β : Type} {result : Except ε α} {f : α → β} {e : ε} :
    result.map f = .error e ↔ result = .error e := by
  cases result <;> simp [Except.map]

namespace Assoc

variable {κ ν : Type} [DecidableEq κ]

theorem mem_put {key : κ} {value : ν} {entries : List (κ × ν)} {e : κ × ν}
    (h : e ∈ put key value entries) : e = (key, value) ∨ e ∈ entries := by
  induction entries with
  | nil => simpa [put] using h
  | cons f rest ih =>
    rw [put] at h
    split_ifs at h with hk
    · rcases List.mem_cons.mp h with rfl | h
      · exact .inl rfl
      · exact .inr (List.mem_cons_of_mem _ h)
    · rcases List.mem_cons.mp h with rfl | h
      · exact .inr List.mem_cons_self
      · exact (ih h).imp_right (List.mem_cons_of_mem _)

theorem map_fst_put (key : κ) (value : ν) (entries : List (κ × ν)) :
    (put key value entries).map Prod.fst =
      if key ∈ entries.map Prod.fst then entries.map Prod.fst
      else entries.map Prod.fst ++ [key] := by
  induction entries with
  | nil => simp [put]
  | cons e rest ih =>
    by_cases hk : e.1 = key
    · simp [put, hk]
    · have hne : key ≠ e.1 := fun h => hk h.symm
      simp only [put, if_neg hk, List.map_cons, ih, List.mem_cons, hne, false_or]
      split_ifs <;> simp

theorem put_of_notMem {key : κ} {entries : List (κ × ν)} (h : key ∉ entries.map Prod.fst)
    (value : ν) : put key value entries = entries ++ [(key, value)] := by
  induction entries with
  | nil => rfl
  | cons e rest ih =>
    simp only [List.map_cons, List.mem_cons, not_or] at h
    rw [put, if_neg fun hk => h.1 hk.symm, ih h.2, List.cons_append]

theorem Unique.put {entries : List (κ × ν)} (h : Unique entries) (key : κ) (value : ν) :
    Unique (put key value entries) := by
  rw [Unique, map_fst_put]
  split_ifs with hk
  · exact h
  · exact List.nodup_append.mpr ⟨h, by simp, by
      intro k hmem k' hk' heq
      rw [List.mem_singleton.mp hk'] at heq
      exact hk (heq ▸ hmem)⟩

omit [DecidableEq κ] in
theorem lookup_isSome_iff [BEq κ] [LawfulBEq κ] {key : κ} {entries : List (κ × ν)} :
    (entries.lookup key).isSome ↔ key ∈ entries.map Prod.fst := by
  rw [Option.isSome_iff_ne_none, Ne, List.lookup_eq_none_iff]
  simp

omit [DecidableEq κ] in
theorem mem_of_lookup [BEq κ] [LawfulBEq κ] {key : κ} {value : ν} {entries : List (κ × ν)}
    (h : entries.lookup key = some value) : (key, value) ∈ entries := by
  obtain ⟨before, after, rfl, -⟩ := List.lookup_eq_some_iff.mp h
  simp

theorem mem_iff_lookup [BEq κ] [LawfulBEq κ] {entries : List (κ × ν)} (h : Unique entries)
    {key : κ} {value : ν} : (key, value) ∈ entries ↔ entries.lookup key = some value := by
  induction entries with
  | nil => simp
  | cons entry rest ih =>
    obtain ⟨k, first⟩ := entry
    obtain ⟨hfresh, hrest⟩ := List.nodup_cons.mp h
    rw [List.mem_cons, Prod.ext_iff, lookup_cons_ite, ih hrest]
    split_ifs with hk
    · subst hk
      have hnone : rest.lookup k ≠ some value := by
        intro hlookup
        exact hfresh (List.mem_map.mpr ⟨(k, value), (ih hrest).mpr hlookup, rfl⟩)
      simp [hnone, eq_comm]
    · simp [Ne.symm hk]

end Assoc

namespace Json

mutual

def Value.nesting : Value → Nat
  | .array items => itemsNesting items + 1
  | .object members => membersNesting members + 1
  | _ => 0

def itemsNesting : List Value → Nat
  | [] => 0
  | item :: items => max item.nesting (itemsNesting items)

def membersNesting : List (String × Value) → Nat
  | [] => 0
  | (_, item) :: members => max item.nesting (membersNesting members)

end

inductive Value.KeysUnique : Value → Prop
  | null : KeysUnique .null
  | bool (value : Bool) : KeysUnique (.bool value)
  | number (value : Number) : KeysUnique (.number value)
  | string (text : String) : KeysUnique (.string text)
  | array {items : List Value} (inner : ∀ item ∈ items, item.KeysUnique) : KeysUnique (.array items)
  | object {members : List (String × Value)} (unique : Assoc.Unique members)
      (inner : ∀ m ∈ members, m.2.KeysUnique) : KeysUnique (.object members)

/-- What a reader that may open fewer than `depth` containers can return. -/
def Value.Within (depth : Nat) (value : Value) : Prop :=
  value.KeysUnique ∧ value.nesting < depth

theorem itemsNesting_lt {depth : Nat} (hdepth : 0 < depth) {items : List Value}
    (h : ∀ item ∈ items, item.nesting < depth) : itemsNesting items < depth := by
  induction items with
  | nil => exact hdepth
  | cons item items ih =>
    rw [itemsNesting, Nat.max_lt]
    exact ⟨h item (by simp), ih fun i hi => h i (by simp [hi])⟩

theorem membersNesting_lt {depth : Nat} (hdepth : 0 < depth) {members : List (String × Value)}
    (h : ∀ m ∈ members, m.2.nesting < depth) : membersNesting members < depth := by
  induction members with
  | nil => exact hdepth
  | cons m members ih =>
    rw [membersNesting, Nat.max_lt]
    exact ⟨h m (by simp), ih fun n hn => h n (by simp [hn])⟩

theorem within_array {depth : Nat} (hdepth : 1 < depth) {items : List Value}
    (h : ∀ item ∈ items, item.Within (depth - 1)) : (Value.array items).Within depth := by
  have : itemsNesting items < depth - 1 := itemsNesting_lt (by omega) fun i hi => (h i hi).2
  exact ⟨.array fun i hi => (h i hi).1, by rw [Value.nesting]; omega⟩

theorem within_object {depth : Nat} (hdepth : 1 < depth) {members : List (String × Value)}
    (hunique : Assoc.Unique members) (h : ∀ m ∈ members, m.2.Within (depth - 1)) :
    (Value.object members).Within depth := by
  have : membersNesting members < depth - 1 :=
    membersNesting_lt (by omega) fun m hm => (h m hm).2
  exact ⟨.object hunique fun m hm => (h m hm).1, by rw [Value.nesting]; omega⟩

theorem eq_of_readWord {value v : Value} {letters s rest : List Char}
    (h : readWord value letters s = .ok (v, rest)) : v = value := by
  induction letters generalizing s with
  | nil => cases h; rfl
  | cons l ls ih =>
    cases s with
    | nil => cases h
    | cons c s =>
      rw [readWord] at h
      split_ifs at h with hc
      exact ih h

mutual

/-- Whatever the text, what a reader returns has unique keys and keeps to the limit. -/
theorem within_of_readValue {fuel depth : Nat} {s rest : List Char} {value : Value}
    (hdepth : 0 < depth) (h : readValue fuel depth s = .ok (value, rest)) : value.Within depth := by
  match fuel with
  | 0 => simp [readValue] at h
  | fuel + 1 =>
    rw [readValue] at h
    split at h
    · cases h
    · rw [eq_of_readWord h]
      exact ⟨.null, hdepth⟩
    · rw [eq_of_readWord h]
      exact ⟨.bool true, hdepth⟩
    · rw [eq_of_readWord h]
      exact ⟨.bool false, hdepth⟩
    · obtain ⟨⟨text, s⟩, -, heq⟩ := map_eq_ok_iff.mp h
      cases heq
      exact ⟨.string text, hdepth⟩
    · obtain ⟨⟨n, s⟩, -, heq⟩ := map_eq_ok_iff.mp h
      cases heq
      exact ⟨.number n, hdepth⟩
    · split_ifs at h with hone
      obtain ⟨⟨items, s⟩, hitems, heq⟩ := map_eq_ok_iff.mp h
      cases heq
      exact within_array (by omega) (within_of_readItems (by omega) (by simp) hitems)
    · split_ifs at h with hone
      obtain ⟨⟨members, s⟩, hmembers, heq⟩ := map_eq_ok_iff.mp h
      cases heq
      have hopen : 0 < depth - 1 := by omega
      obtain ⟨hunique, hinner⟩ := within_of_readMembers hopen (by simp [Assoc.Unique])
        (by simp) hmembers
      exact within_object (by omega) hunique hinner
    · split_ifs at h
      obtain ⟨⟨n, s⟩, -, heq⟩ := map_eq_ok_iff.mp h
      cases heq
      exact ⟨.number n, hdepth⟩

theorem within_of_readItems {fuel depth : Nat} {first : Bool} {s rest : List Char}
    {read items : List Value} (hdepth : 0 < depth) (hread : ∀ i ∈ read, i.Within depth)
    (h : readItems fuel depth first read s = .ok (items, rest)) : ∀ i ∈ items, i.Within depth := by
  match fuel with
  | 0 => simp [readItems] at h
  | fuel + 1 =>
    rw [readItems] at h
    split at h
    · cases h
    · cases h
      exact fun i hi => hread i (List.mem_reverse.mp hi)
    · split at h
      · cases h
      · rename_i hitem
        have hitem := within_of_readValue hdepth hitem
        exact within_of_readItems hdepth (List.forall_mem_cons.mpr ⟨hitem, hread⟩) h

theorem within_of_readMembers {fuel depth : Nat} {first : Bool} {s rest : List Char}
    {read members : List (String × Value)} (hdepth : 0 < depth) (hunique : Assoc.Unique read)
    (hread : ∀ m ∈ read, m.2.Within depth)
    (h : readMembers fuel depth first read s = .ok (members, rest)) :
    Assoc.Unique members ∧ ∀ m ∈ members, m.2.Within depth := by
  match fuel with
  | 0 => simp [readMembers] at h
  | fuel + 1 =>
    rw [readMembers] at h
    split at h
    · cases h
    · cases h
      exact ⟨hunique, hread⟩
    · split at h
      · cases h
      · split at h
        · cases h
        · rename_i hvalue
          refine within_of_readMembers hdepth (hunique.put _ _) ?_ h
          intro m hm
          rcases Assoc.mem_put hm with rfl | hm
          · exact within_of_readValue hdepth hvalue
          · exact hread m hm

end

theorem within_of_parse {content : List Char} {value : Value} (h : parse content = .ok value) :
    value.Within depthLimit := by
  rw [parse] at h
  split at h
  · cases h
  · rename_i hread
    obtain ⟨-, -, rfl⟩ := map_eq_ok_iff.mp h
    exact within_of_readValue (by decide) hread

end Json
end Phrasebook
