import Mathlib.Data.List.Forall2
import Mathlib.Tactic.Common
import Phrasebook.Command.Plan
import Phrasebook.Disk

/-!
Actions that look at the disk and leave it as it is. What they answer depends on the disk alone, not
on the lines that were put out before.
-/
namespace Phrasebook

variable {α β : Type} {d : Disk}

def Disk.answer (d : Disk) (x : StateM Session α) : α :=
  (x ⟨d, []⟩).1

/-- Whether an action leaves a disk alone and answers the same whatever was put out before. -/
def Looks (d : Disk) (x : StateM Session α) : Prop :=
  ∀ remarks, ∃ more, x ⟨d, remarks⟩ = (d.answer x, ⟨d, more⟩)

namespace Looks

section

variable {x : StateM Session α} {f : α → StateM Session β}

protected theorem pure (a : α) : Looks d (pure a : StateM Session α) :=
  fun remarks => ⟨remarks, rfl⟩

theorem bind_run (hx : Looks d x) (hf : Looks d (f (d.answer x))) (remarks : List String) :
    ∃ more, (x >>= f) ⟨d, remarks⟩ = (d.answer (f (d.answer x)), ⟨d, more⟩) := by
  obtain ⟨between, hbetween⟩ := hx remarks
  obtain ⟨more, hmore⟩ := hf between
  refine ⟨more, ?_⟩
  rw [← hmore]
  show f (x ⟨d, remarks⟩).1 (x ⟨d, remarks⟩).2 = f (d.answer x) ⟨d, between⟩
  rw [hbetween]

theorem answer_bind (hx : Looks d x) (hf : Looks d (f (d.answer x))) :
    d.answer (x >>= f) = d.answer (f (d.answer x)) := by
  obtain ⟨more, hmore⟩ := bind_run hx hf []
  rw [Disk.answer, hmore]

protected theorem bind (hx : Looks d x) (hf : ∀ a, Looks d (f a)) : Looks d (x >>= f) := by
  intro remarks
  rw [answer_bind hx (hf _)]
  exact bind_run hx (hf _) remarks

protected theorem mapM (hf : ∀ a, Looks d (f a)) (as : List α) : Looks d (as.mapM f) := by
  induction as with
  | nil => exact .pure []
  | cons a as ih =>
    rw [List.mapM_cons]
    exact .bind (hf a) fun b => .bind ih fun bs => .pure (b :: bs)

theorem answer_mapM (hf : ∀ a, Looks d (f a)) (as : List α) :
    d.answer (as.mapM f) = as.map fun a => d.answer (f a) := by
  induction as with
  | nil => rfl
  | cons a as ih =>
    have hpure (b : β) (bs : List β) : Looks d (pure (b :: bs) : StateM Session (List β)) := .pure _
    have hrest (b : β) : Looks d (as.mapM f >>= fun bs => pure (b :: bs)) :=
      .bind (.mapM hf as) (hpure b)
    rw [List.mapM_cons, answer_bind (hf a) (hrest _), answer_bind (.mapM hf as) (hpure _ _), ih]
    rfl

end

section

variable {p : α → StateM Session Bool}

theorem filterAuxM (hp : ∀ a, Looks d (p a)) (as kept : List α) :
    Looks d (as.filterAuxM p kept) ∧
      d.answer (as.filterAuxM p kept) = (as.filter fun a => d.answer (p a)).reverse ++ kept := by
  induction as generalizing kept with
  | nil => exact ⟨.pure kept, rfl⟩
  | cons a as ih =>
    rw [List.filterAuxM]
    refine ⟨.bind (hp a) fun b => (ih _).1, ?_⟩
    rw [answer_bind (hp a) (ih _).1, (ih _).2]
    cases hkept : d.answer (p a) <;> simp [hkept]

protected theorem filterM (hp : ∀ a, Looks d (p a)) (as : List α) : Looks d (as.filterM p) :=
  .bind (filterAuxM hp as []).1 fun kept => .pure kept.reverse

theorem answer_filterM (hp : ∀ a, Looks d (p a)) (as : List α) :
    d.answer (as.filterM p) = as.filter fun a => d.answer (p a) := by
  obtain ⟨hlooks, hanswer⟩ := filterAuxM hp as []
  have hpure (kept : List α) : Looks d (pure kept.reverse : StateM Session (List α)) := .pure _
  rw [List.filterM, answer_bind hlooks (hpure _), hanswer]
  show ((as.filter fun a => d.answer (p a)).reverse ++ []).reverse = _
  simp

end

end Looks

def Disk.outcome (d : Disk) (x : Attempt (StateM Session) α) : Except CommandError α :=
  d.answer x.run

/-- Whether an attempt succeeds with a value on a disk, after some lines or other. -/
def Disk.Yields (d : Disk) (x : Attempt (StateM Session) α) (a : α) : Prop :=
  ∃ remarks, (x.run ⟨d, remarks⟩).1 = .ok a

theorem Disk.yields_of_outcome {x : Attempt (StateM Session) α} {a : α} (h : d.outcome x = .ok a) :
    d.Yields x a :=
  ⟨[], h⟩

namespace Looks

variable {x : Attempt (StateM Session) α} {f : α → Attempt (StateM Session) β}

theorem attempt_bind (hx : Looks d x.run) (hf : ∀ a, Looks d (f a).run) :
    Looks d (x >>= f).run := by
  rw [ExceptT.run_bind]
  refine .bind hx fun r => ?_
  cases r with
  | ok a => exact hf a
  | error e => exact .pure _

theorem lift {y : StateM Session α} (hy : Looks d y) :
    Looks d (ExceptT.lift y : Attempt (StateM Session) α).run := by
  intro remarks
  obtain ⟨more, hmore⟩ := hy remarks
  refine ⟨more, ?_⟩
  show (Except.ok (y ⟨d, remarks⟩).1, (y ⟨d, remarks⟩).2) = _
  rw [hmore]
  rfl

theorem outcome_lift (y : StateM Session α) : d.outcome (ExceptT.lift y) = .ok (d.answer y) :=
  rfl

theorem attempt_mapM (hf : ∀ a, Looks d (f a).run) (as : List α) : Looks d (as.mapM f).run := by
  induction as with
  | nil => exact .pure _
  | cons a as ih =>
    rw [List.mapM_cons]
    exact .attempt_bind (hf a) fun b => .attempt_bind ih fun bs => .pure _

theorem outcome_of_yields (hx : Looks d x.run) {a : α} (h : d.Yields x a) : d.outcome x = .ok a := by
  obtain ⟨remarks, h⟩ := h
  obtain ⟨more, hmore⟩ := hx remarks
  rw [hmore] at h
  exact h

/-- An attempt in two parts succeeds only if both of them do. -/
theorem of_bind {b : β} (hx : Looks d x.run) (h : d.Yields (x >>= f) b) :
    ∃ a, d.outcome x = .ok a ∧ d.Yields (f a) b := by
  obtain ⟨remarks, h⟩ := h
  obtain ⟨more, hmore⟩ := hx remarks
  have hbind : (x >>= f).run ⟨d, remarks⟩ =
      ExceptT.bindCont f (x.run ⟨d, remarks⟩).1 (x.run ⟨d, remarks⟩).2 := rfl
  rw [hbind, hmore] at h
  cases houtcome : d.answer x.run with
  | ok a =>
    rw [houtcome] at h
    exact ⟨a, houtcome, more, h⟩
  | error e =>
    rw [houtcome] at h
    cases h

theorem of_lift_bind {y : StateM Session α} {b : β} (hy : Looks d y)
    (h : d.Yields (ExceptT.lift y >>= f) b) : d.Yields (f (d.answer y)) b := by
  obtain ⟨a, ha, h⟩ := of_bind (.lift hy) h
  cases ha
  exact h

/-- What succeeds for a list has succeeded for each of its elements. -/
theorem of_mapM (hf : ∀ a, Looks d (f a).run) {as : List α} {bs : List β}
    (h : d.Yields (as.mapM f) bs) : List.Forall₂ (fun a b => d.outcome (f a) = .ok b) as bs := by
  induction as generalizing bs with
  | nil =>
    obtain ⟨remarks, h⟩ := h
    cases h
    exact .nil
  | cons a as ih =>
    rw [List.mapM_cons] at h
    obtain ⟨b, hb, h⟩ := of_bind (hf a) h
    obtain ⟨rest, hrest, h⟩ := of_bind (attempt_mapM hf as) h
    obtain ⟨remarks, h⟩ := h
    cases h
    exact .cons hb (ih (Disk.yields_of_outcome hrest))

end Looks
end Phrasebook
