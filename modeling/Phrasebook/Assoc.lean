/-!
Insertion-ordered maps as lists of pairs. Replacing a value keeps its position, a new key goes last.
-/
namespace Phrasebook.Assoc

variable {κ : Type} {ν : Type} [DecidableEq κ]

/-- Replaces the value of `key` in place, or appends a new pair. -/
def put (key : κ) (value : ν) : List (κ × ν) → List (κ × ν)
  | [] => [(key, value)]
  | (k, v) :: rest => if k = key then (key, value) :: rest else (k, v) :: put key value rest

def update (key : κ) (f : Option ν → ν) (entries : List (κ × ν)) : List (κ × ν) :=
  put key (f (entries.lookup key)) entries

def Unique (entries : List (κ × ν)) : Prop :=
  (entries.map Prod.fst).Nodup

instance (entries : List (κ × ν)) : Decidable (Unique entries) :=
  inferInstanceAs (Decidable (entries.map Prod.fst).Nodup)

theorem lookup_cons_ite [BEq κ] [LawfulBEq κ] (key k : κ) (value : ν) (rest : List (κ × ν)) :
    ((k, value) :: rest).lookup key = if k = key then some value else rest.lookup key := by
  by_cases hk : k = key
  · simp [hk]
  · have hne : (key == k) = false := beq_false_of_ne (Ne.symm hk)
    simp [List.lookup_cons, hk, hne]

theorem lookup_put [BEq κ] [LawfulBEq κ] (key k : κ) (value : ν) (entries : List (κ × ν)) :
    (put key value entries).lookup k = if key = k then some value else entries.lookup k := by
  induction entries with
  | nil => rw [put, lookup_cons_ite, List.lookup_nil]
  | cons entry rest ih =>
    obtain ⟨j, first⟩ := entry
    by_cases hj : j = key
    · subst hj
      rw [put, if_pos rfl, lookup_cons_ite, lookup_cons_ite]
      split <;> rfl
    · rw [put, if_neg hj, lookup_cons_ite, lookup_cons_ite, ih]
      by_cases hk : key = k
      · have hne : j ≠ k := fun heq => hj (heq.trans hk.symm)
        rw [if_neg hne, if_pos hk, if_pos hk]
      · rw [if_neg hk, if_neg hk]

theorem put_put (key : κ) (first second : ν) (entries : List (κ × ν)) :
    put key second (put key first entries) = put key second entries := by
  induction entries with
  | nil => simp [put]
  | cons entry rest ih =>
    obtain ⟨k, value⟩ := entry
    by_cases hk : k = key
    · simp [put, hk]
    · simp [put, hk, ih]

end Phrasebook.Assoc
