import Jotter.Builtin.Clock
import Jotter.Builtin.Content
import Jotter.Builtin.Help
import Jotter.Builtin.Notebook
import Jotter.Builtin.Reminder
import Jotter.Builtin.Search
import Jotter.Builtin.Tag

/-!
The built-in commands, in the order in which they are registered.
-/

namespace Jotter.Builtin

variable {σ : Type}

def all (services : Services σ) (marker : String) : List (Command (Hooks σ)) :=
  [help marker, ping marker, timestamp services marker, reminder services marker, todo marker,
   template services marker, tag services marker, notebook services marker, search services marker]

/-- Registers commands one after the other up to the first that fails; the ones before it stay. -/
def registerEach (registry : Registry (Hooks σ)) :
    List (Command (Hooks σ)) → Registry (Hooks σ) × Option Failure
  | [] => (registry, none)
  | command :: commands =>
    match registry.register command false with
    | .ok registry => registerEach registry commands
    | .error failure => (registry, some failure)

/-- Registers the built-in commands; if a name is taken, the ones before the collision stay. -/
def registerAll (registry : Registry (Hooks σ)) (services : Services σ) (marker : String) :
    Registry (Hooks σ) × Option Failure :=
  registerEach registry (all services marker)

/-- The registry of the built-in commands alone. -/
def registry (services : Services σ) (marker : String) : Registry (Hooks σ) :=
  (registerAll Registry.empty services marker).1

end Jotter.Builtin
