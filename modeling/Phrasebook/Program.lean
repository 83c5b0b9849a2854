import Phrasebook.Command.Run
import Phrasebook.CommandLine.Parser

/-!
The program as a whole: from the words of a command line to what is printed and how it ends.
-/
namespace Phrasebook

structure Reply where
  printed : Printed
  status : ExitStatus
  deriving DecidableEq, Repr

namespace Reply

def ofPlan (color verbose : Bool) (plan : Plan) : Reply :=
  ⟨plan.summary.print color verbose plan.issues, plan.status⟩

def ofError (e : CommandError) : Reply :=
  ⟨⟨"", s!"Error: {e.message}\n"⟩, .error⟩

def overview : Reply :=
  ⟨⟨CommandLine.overview, ""⟩, .success⟩

end Reply

variable {m : Type → Type} [Monad m] [Files m]

def Command.reply (color : Bool) (command : Command) : m Reply := do
  match ← (command.run color).run with
  | .ok plan => return .ofPlan color command.verbose plan
  | .error e => return .ofError e

/-- Runs the program. Lines that cannot be read run nothing. -/
def runProgram (color : Bool) (environment : String → Option String) (words : List String) :
    m (Except CommandLine.Stop Reply) := do
  match CommandLine.parse environment words with
  | .error stop => return .error stop
  | .ok none => return .ok .overview
  | .ok (some command) => return .ok (← command.reply color)

end Phrasebook
