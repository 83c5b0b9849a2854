import Phrasebook.Command.Error
import Phrasebook.Summary

/-!
Plans: what commands will do. A command reads all it needs before it plans anything, and nothing
changes before its plan is carried out.
-/
namespace Phrasebook

inductive Action where
  /-- Puts a line on the error output. -/
  | remark (text : String)
  | write (content : Content) (path text : String)
  deriving DecidableEq, Repr

/-- The steps in order, and what there is to print after them. An issue that is fatal has kept the
command from planning anything. -/
structure Plan where
  actions : List Action
  summary : Summary
  issues : List Issue
  fatal : Bool
  deriving DecidableEq, Repr

inductive ExitStatus where
  | success
  | failure
  | error
  deriving DecidableEq, Repr

def ExitStatus.code : ExitStatus → Nat
  | .success => 0
  | .failure => 1
  | .error => 2

abbrev Attempt (m : Type → Type) := ExceptT CommandError m

namespace Action

def writeTree (path : String) (tree : Tree) : Action :=
  .write .phrases path tree.render

def target? : Action → Option String
  | .remark _ => none
  | .write _ path _ => some path

def perform {m : Type → Type} [Monad m] [Files m] : Action → Attempt m Unit
  | .remark text => ExceptT.lift (Files.remark text)
  | .write content path text => do
    match ← ExceptT.lift (Files.writeText path text) with
    | .ok () => return ()
    | .error cause => throw (.unwritten content path cause)

end Action

namespace Plan

def done (actions : List Action) (summary : Summary) : Plan :=
  ⟨actions, summary, [], false⟩

def abort (issue : Issue) : Plan :=
  ⟨[], .aborted, [issue], true⟩

def status (plan : Plan) : ExitStatus :=
  if plan.fatal then .error else if plan.issues.isEmpty then .success else .failure

/-- Carries out the steps up to the first that fails. -/
def perform {m : Type → Type} [Monad m] [Files m] (plan : Plan) : Attempt m Unit :=
  plan.actions.forM Action.perform

end Plan
end Phrasebook
