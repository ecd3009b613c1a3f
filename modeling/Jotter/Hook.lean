import Jotter.Command.Registry
import Jotter.Result
import Jotter.Settings.Value

/-!
Hooks: the parts of a command that do something. A hook runs on a scene, which holds the context of
the session, the listing of the commands in force and a state of any type behind the collaborators; it
may change the scene, also when it fails. A provider of argument values may answer at once or later.
-/

namespace Jotter

/-- A step that may fail, and that keeps its changes to the state when it does. -/
abbrev Attempt (σ α : Type) := ExceptT Failure (StateM σ) α

/-- What a command is told about the session. -/
structure Context where
  /-- The label of the notebook, or nothing. -/
  notebook : Setting := .null
  vaultPath : Option String := none
  deriving Repr, Inhabited

/-- What a hook works on. -/
structure Scene (σ : Type) where
  context : Context
  listing : Registry Unit
  state : σ

abbrev Action (σ α : Type) := Attempt (Scene σ) α

/-- A source of values for the argument being typed; the values may be missing. -/
structure Provider (σ : Type) where
  deferred : Bool
  offer : List String → Action σ (Option (List String))

structure Hooks (σ : Type) where
  execute : List String → Action σ Result
  validate : Option (List String → Action σ Verdict)
  provider : Option (Provider σ)

namespace Attempt

variable {σ τ α : Type}

/-- A step on a part of a larger state. -/
def onPart (part : τ → σ) (withPart : τ → σ → τ) (step : Attempt σ α) : Attempt τ α :=
  ExceptT.mk fun whole =>
    let (outcome, changed) := step.run.run (part whole)
    (outcome, withPart whole changed)

/-- A step that does not fail and reads off the state. -/
def reads (f : σ → α) : Attempt σ α :=
  ExceptT.mk fun state => (.ok (f state), state)

/-- A step that only computes. -/
def ofExcept : Except Failure α → Attempt σ α
  | .ok a => pure a
  | .error failure => throw failure

/-- Runs a step and hands its outcome on, whether it failed or not. -/
def outcome (step : Attempt σ α) : Attempt σ (Except Failure α) :=
  ExceptT.mk fun state =>
    let (outcome, changed) := step.run.run state
    (.ok outcome, changed)

end Attempt

namespace Action

variable {σ α : Type}

/-- A step on the state behind the collaborators. -/
def onState (step : Attempt σ α) : Action σ α :=
  Attempt.onPart Scene.state (fun scene state => { scene with state := state }) step

def context : Action σ Context :=
  Attempt.reads Scene.context

def listing : Action σ (Registry Unit) :=
  Attempt.reads Scene.listing

/-- Makes a notebook the one that later commands work in. -/
def setNotebook (id : Setting) : Action σ Unit :=
  modify fun scene => { scene with context := { scene.context with notebook := id } }

end Action

end Jotter
