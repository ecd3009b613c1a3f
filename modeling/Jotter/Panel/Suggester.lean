import Jotter.Panel.Exchange
import Jotter.Session

/-!
A panel beside a session. Changes of the text ask the providers of the session's commands; what is to
be answered later waits as a ticket and is answered when the session settles. The providers see the
context of the session, or one of the panel's own.
-/

namespace Jotter

structure Suggester (σ : Type) extends Exchange (Hooks σ) where
  /-- The context of the panel's own; without one the providers see that of the session. -/
  ownContext : Option Context

namespace Suggester

variable {σ α : Type}

/-- A panel that has shown nothing yet. -/
def start (settings : PanelSettings) (ownContext : Option Context) : Suggester σ :=
  { Exchange.start settings with ownContext := ownContext }

/-- Runs a step with the context that the providers see, and gives the session its own one back. -/
def inContext (suggester : Suggester σ) (step : StateM (Session σ) α) :
    StateM (Session σ) (α × Suggester σ) := fun session =>
  match suggester.ownContext with
  | none =>
    let (answer, session) := step.run session
    ((answer, suggester), session)
  | some own =>
    let (answer, changed) := step.run { session with context := own }
    ((answer, { suggester with ownContext := some changed.context }),
      { changed with context := session.context })

/-- Tells the panel that the text has changed. -/
def update (suggester : Suggester σ) (canWait : Bool) (text : String) :
    StateM (Session σ) (Suggester σ) := do
  let registry := (← get).registry
  let ((exchange, _), suggester) ←
    suggester.inContext (suggester.toExchange.update (Session.ask canWait) registry text)
  return { suggester with toExchange := exchange }

/-- Answers the request of a ticket: the provider is called and what it came to is brought to the
panel. -/
def answer (suggester : Suggester σ) (ticket : Nat) (request : Request (Hooks σ)) :
    StateM (Session σ) (Suggester σ) := do
  let (offer, suggester) ←
    suggester.inContext (Session.offer request.command request.args).run
  return { suggester with toExchange := (suggester.complete ticket offer).1 }

/-- Answers those of the tickets that wait and are ready, in this order. `ready` counts the tickets
from one. -/
def settleEach (ready : Nat → Bool) (suggester : Suggester σ) :
    List Nat → StateM (Session σ) (Suggester σ)
  | [] => return suggester
  | ticket :: tickets => do
    match suggester.tickets[ticket]? with
    | some ⟨request, none⟩ =>
      if ready (ticket + 1) then
        let suggester ← suggester.answer ticket request
        suggester.settleEach ready tickets
      else suggester.settleEach ready tickets
    | _ => suggester.settleEach ready tickets

/-- Answers all waiting tickets that are ready, in the order in which they were sent. -/
def settle (suggester : Suggester σ) (ready : Nat → Bool) : StateM (Session σ) (Suggester σ) :=
  suggester.settleEach ready (List.range suggester.tickets.length)

end Suggester

end Jotter
