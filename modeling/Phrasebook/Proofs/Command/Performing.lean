import Phrasebook.Command.Plan
import Phrasebook.Proofs.Disk.Places

/-!
Carrying out plans. Only the first write of an orderly plan can fail, since all others go to files
that are there, so either all of its steps are done or the disk stays as it was.
-/
namespace Phrasebook

open Disk (Frame SameNames)

variable {d : Disk} {s after : Session} {actions : List Action} {content : Content}
  {path text : String}

def Session.attempt {α : Type} (s : Session) (x : Attempt (StateM Session) α) :
    Except CommandError α × Session :=
  x.run s

section

variable {α β : Type} {x : Attempt (StateM Session) α} {f : α → Attempt (StateM Session) β}

theorem attempt_bind_of_ok {a : α} (hx : s.attempt x = (.ok a, after)) :
    s.attempt (x >>= f) = after.attempt (f a) := by
  show ExceptT.bindCont f (s.attempt x).1 (s.attempt x).2 = _
  rw [hx]
  rfl

theorem attempt_bind_of_error {e : CommandError} (hx : s.attempt x = (.error e, after)) :
    s.attempt (x >>= f) = (.error e, after) := by
  show ExceptT.bindCont f (s.attempt x).1 (s.attempt x).2 = _
  rw [hx]
  rfl

end

theorem attempt_writeText (s : Session) (path text : String) :
    s.attempt (ExceptT.lift (Files.writeText path text)) =
      match s.disk.write path (Text.encode text) with
      | .ok written => (.ok (.ok ()), { s with disk := written })
      | .error cause => (.ok (.error cause), s) := by
  have hlift (y : StateM Session (Except FileError Unit)) :
      s.attempt (ExceptT.lift y) = (.ok (y s).1, (y s).2) := rfl
  have hwrite : (Files.writeText path text : StateM Session (Except FileError Unit)) s =
      match s.disk.write path (Text.encode text) with
      | .ok written => (.ok (), { s with disk := written })
      | .error cause => (.error cause, s) := rfl
  rw [hlift, hwrite]
  cases s.disk.write path (Text.encode text) <;> rfl

theorem attempt_remark_cons (s : Session) (text : String) (rest : List Action) :
    s.attempt ((Action.remark text :: rest).forM Action.perform) =
      { s with remarks := s.remarks ++ [text] }.attempt (rest.forM Action.perform) :=
  rfl

theorem attempt_write_cons_of_ok {written : Disk}
    (h : s.disk.write path (Text.encode text) = .ok written) (rest : List Action) :
    s.attempt ((Action.write content path text :: rest).forM Action.perform) =
      { s with disk := written }.attempt (rest.forM Action.perform) := by
  have hwrite := attempt_writeText s path text
  rw [h] at hwrite
  have hstep : s.attempt (Action.write content path text).perform =
      (.ok (), { s with disk := written }) := attempt_bind_of_ok hwrite
  exact attempt_bind_of_ok hstep

theorem attempt_write_cons_of_error {cause : FileError}
    (h : s.disk.write path (Text.encode text) = .error cause) (rest : List Action) :
    s.attempt ((Action.write content path text :: rest).forM Action.perform) =
      (.error (.unwritten content path cause), s) := by
  have hwrite := attempt_writeText s path text
  rw [h] at hwrite
  have hstep : s.attempt (Action.write content path text).perform =
      (.error (.unwritten content path cause), s) := attempt_bind_of_ok hwrite
  exact attempt_bind_of_error hstep

/-- Whether nothing can go wrong with a step: it writes no file but one that is there. -/
def Action.Safe (d : Disk) : Action → Prop
  | .remark _ => True
  | .write _ path _ => ∃ place, d.locate path = .ok place ∧ d.hasFile place

/-- Whether just the first write can go wrong. If there are more, it goes to a file that is there
as well, which moves nothing. -/
def Orderly (d : Disk) : List Action → Prop
  | [] => True
  | .remark _ :: rest => Orderly d rest
  | .write _ path _ :: rest => (rest = [] ∨ d.isFile path) ∧ ∀ action ∈ rest, action.Safe d

theorem orderly_of_safe (h : ∀ action ∈ actions, action.Safe d) : Orderly d actions := by
  induction actions with
  | nil => trivial
  | cons action rest ih =>
    rw [List.forall_mem_cons] at h
    cases action with
    | remark text => exact ih h.2
    | write content path text =>
      obtain ⟨⟨place, hlocate, hfile⟩, hrest⟩ := h
      exact ⟨.inr (Disk.isFile_iff.mpr ⟨place, hlocate, hfile⟩), hrest⟩

def Written (d : Disk) (actions : List Action) (place : Place) : Prop :=
  ∃ action ∈ actions, ∃ path, action.target? = some path ∧ d.locate path = .ok place

theorem written_cons {action : Action} (place : Place) (h : Written d actions place) :
    Written d (action :: actions) place := by
  obtain ⟨other, hmem, htarget⟩ := h
  exact ⟨other, List.mem_cons_of_mem action hmem, htarget⟩

theorem perform_safe (hnames : SameNames d s.disk) (h : ∀ action ∈ actions, action.Safe d) :
    ∃ after, s.attempt (actions.forM Action.perform) = (.ok (), after) ∧
      Frame (Written d actions) s.disk after.disk := by
  induction actions generalizing s with
  | nil => exact ⟨s, rfl, .refl _ _⟩
  | cons action rest ih =>
    rw [List.forall_mem_cons] at h
    obtain ⟨haction, hrest⟩ := h
    cases action with
    | remark text =>
      rw [attempt_remark_cons]
      obtain ⟨after, hrun, hframe⟩ := ih (s := { s with remarks := s.remarks ++ [text] }) hnames hrest
      exact ⟨after, hrun, hframe.mono written_cons⟩
    | write content path text =>
      obtain ⟨place, hlocate, hfile⟩ := haction
      have hthere : s.disk.hasFile place := (hnames.file place).trans hfile
      have hwrite := Disk.write_of_hasFile ((hnames.locate path).trans hlocate) hthere
        (Text.encode text)
      have hput := Disk.sameNames_put hthere (Text.encode text)
      rw [attempt_write_cons_of_ok hwrite]
      obtain ⟨after, hrun, hframe⟩ := ih (s := { s with disk := s.disk.put place _ })
        (hnames.trans hput) hrest
      have hhere : Written d (.write content path text :: rest) place :=
        ⟨_, List.mem_cons_self, path, rfl, hlocate⟩
      exact ⟨after, hrun, (Frame.put hhere _).trans (hframe.mono written_cons)⟩

/-- An orderly plan is carried out as a whole, or not at all. -/
theorem perform_orderly (h : Orderly s.disk actions) :
    (∃ after, s.attempt (actions.forM Action.perform) = (.ok (), after) ∧
        Frame (Written s.disk actions) s.disk after.disk) ∨
      ∃ e after, s.attempt (actions.forM Action.perform) = (.error e, after) ∧
        after.disk = s.disk := by
  induction actions generalizing s with
  | nil => exact .inl ⟨s, rfl, .refl _ _⟩
  | cons action rest ih =>
    cases action with
    | remark text =>
      rw [attempt_remark_cons]
      rcases ih (s := { s with remarks := s.remarks ++ [text] }) h with
        ⟨after, hrun, hframe⟩ | hfailed
      · exact .inl ⟨after, hrun, hframe.mono written_cons⟩
      · exact .inr hfailed
    | write content path text =>
      obtain ⟨hfirst, hrest⟩ := h
      cases hwrite : s.disk.write path (Text.encode text) with
      | error cause =>
        rw [attempt_write_cons_of_error hwrite]
        exact .inr ⟨_, s, rfl, rfl⟩
      | ok written =>
        rw [attempt_write_cons_of_ok hwrite]
        obtain ⟨place, hlocate, -, rfl⟩ := Disk.write_eq_ok hwrite
        have hhere : Written s.disk (.write content path text :: rest) place :=
          ⟨_, List.mem_cons_self, path, rfl, hlocate⟩
        have hput := Frame.put hhere (Text.encode text) (d := s.disk)
        left
        rcases hfirst with rfl | hfile
        · exact ⟨_, rfl, hput⟩
        · -- The first file was there, so the others are still found where they were.
          obtain ⟨found, hfound, hthere⟩ := Disk.isFile_iff.mp hfile
          rw [hlocate] at hfound
          cases hfound
          have hnames := Disk.sameNames_put hthere (Text.encode text)
          obtain ⟨after, hrun, hframe⟩ :=
            perform_safe (s := { s with disk := s.disk.put place (Text.encode text) }) hnames hrest
          exact ⟨after, hrun, hput.trans (hframe.mono written_cons)⟩

/-- Steps that write nothing leave the disk as it was. -/
theorem perform_remarks (h : ∀ action ∈ actions, action.target? = none) :
    ∃ after, s.attempt (actions.forM Action.perform) = (.ok (), after) ∧ after.disk = s.disk := by
  induction actions generalizing s with
  | nil => exact ⟨s, rfl, rfl⟩
  | cons action rest ih =>
    rw [List.forall_mem_cons] at h
    cases action with
    | remark text =>
      rw [attempt_remark_cons]
      exact ih h.2
    | write content path text => cases h.1

end Phrasebook
