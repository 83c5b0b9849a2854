import Phrasebook.Command.Generate
import Phrasebook.Command.Lint
import Phrasebook.Command.Prune
import Phrasebook.Command.Rekey
import Phrasebook.Command.Sort
import Phrasebook.Command.Usage
import Phrasebook.Project.Opening

/-!
Planning and running commands.
-/
namespace Phrasebook

variable {m : Type → Type} [Monad m] [Files m]

def ProjectTask.plan (color : Bool) (p : Project) : ProjectTask → Attempt m Plan
  | .generate options => options.plan color p
  | .rekey options => options.plan color p
  | .prune options => options.plan p
  | .lint options => options.plan p
  | .usage options => options.plan color p
  | .sort options => options.plan p

def planInit : Attempt m Plan := do
  if ← ExceptT.lift (Files.present Config.fileName) then throw .configExists
  return .done [.write .settings Config.fileName Config.defaultText] (.initialized true)

namespace Command

def plan (color : Bool) : Command → Attempt m Plan
  | .onProject options task => do task.plan color (← Project.load options)
  | .init => planInit

def run (color : Bool) (command : Command) : Attempt m Plan := do
  let plan ← command.plan color
  plan.perform
  return plan

end Command
end Phrasebook
