import Jotter.History
import Jotter.Hook
import Jotter.Line
import Jotter.Panel.Basic

/-!
A session: the commands in force, the history, the context and the state behind the collaborators, and
the run of a command line in it. What is wrong with an invocation comes back as a failed result and
leaves no trace in the history; a handler that was started leaves one entry, also when it fails.
-/

namespace Jotter

structure Session (σ : Type) where
  registry : Registry (Hooks σ)
  history : History
  marker : String
  context : Context
  state : σ

namespace Session

variable {σ α : Type}

/-- What the hooks of a session see. -/
def scene (session : Session σ) : Scene σ :=
  ⟨session.context, session.registry.outline, session.state⟩

/-- The session after a hook has changed the scene. -/
def withScene (session : Session σ) (scene : Scene σ) : Session σ :=
  { session with context := scene.context, state := scene.state }

/-- Runs a hook in the session. -/
def run (action : Action σ α) : Attempt (Session σ) α :=
  Attempt.onPart scene withScene action

/-- Appends an entry to the history. -/
def record (line : String) (success : Bool) : Attempt (Session σ) Unit :=
  modify fun session => { session with history := session.history.append line success }

/-- The check of a command's arguments; a command without a check takes any. -/
def validate (command : Command (Hooks σ)) (args : List String) : Attempt (Session σ) Verdict :=
  match command.hooks.validate with
  | none => return .valid
  | some check => run (check args)

/-- Runs the handler of a command and records how it ended. -/
def runHandler (command : Command (Hooks σ)) (args : List String) (raw : String) :
    Attempt (Session σ) Result := do
  match ← Attempt.outcome (run (command.hooks.execute args)) with
  | .ok result =>
    record raw result.success
    return result
  | .error cause =>
    record raw false
    throw (.execution command.name args cause)

/-- The result of a line whose command is not known. -/
def unknownCommand (name marker : String) : Result :=
  .rejected .unknownCommand
    ("Unknown command: " ++ marker ++ name ++ ". Type " ++ marker ++ "help to see available commands.")

/-- Runs a command line. -/
def execute (raw : String) : Attempt (Session σ) Result := do
  let session ← get
  let invocation := Line.parse raw session.marker
  if invocation.isEmpty then return .rejected .emptyInvocation "No command specified"
  match session.registry.resolve? invocation.name defaultMarker with
  | none => return unknownCommand invocation.name session.marker
  | some command =>
    match ← validate command invocation.args with
    | .invalid reason => return .rejected .validationFailed (rejectionMessage reason)
    | .valid => runHandler command invocation.args raw

/-! ### Providers -/

/-- The values that the provider of a command offers; a missing provider offers none. -/
def offer (command : Command (Hooks σ)) (args : List String) :
    Attempt (Session σ) (Option (List String)) :=
  match command.hooks.provider with
  | none => return none
  | some provider => run (provider.offer args)

/-- The values that the provider of a command offers, where a failure counts as none. -/
def valuesOf (command : Command (Hooks σ)) (args : List String) : StateM (Session σ) (List String) := do
  return Offer.values (← (offer command args).run)

/-- Asks the provider of a command for values. `canWait` tells whether an answer can come later. -/
def ask (canWait : Bool) (command : Command (Hooks σ)) (args : List String) :
    StateM (Session σ) Answer := do
  match command.hooks.provider with
  | none => return .silent
  | some provider =>
    if provider.deferred then return (if canWait then .later else .silent)
    else
      match ← (run (provider.offer args)).run with
      | .ok values => return .now (values.getD [])
      | .error _ => return .silent

end Session

end Jotter
