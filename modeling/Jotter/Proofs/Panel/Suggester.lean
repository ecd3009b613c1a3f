import Jotter.Panel.Suggester
import Jotter.Proofs.Panel.Run

/-! A panel beside a session goes through runs of its exchange, whatever the providers do to the session
when they are called: a change of the text is one step, in which each provider says what it says in the
session at that moment, and settling is a row of answers. What is proved of all runs therefore holds of
the panel beside a session. -/

namespace Jotter

variable {η σ τ : Type}

/-- Providers that work on a state say what they say in the state of that moment. -/
theorem Panel.update_run (ask : Command η → List String → StateM τ Answer) (panel : Panel η)
    (registry : Registry η) (text : String) (state : τ) :
    ((panel.update ask registry text).run state).1 =
      Id.run (panel.update (m := Id) (fun command args => ((ask command args).run state).1)
        registry text) := by
  rw [Panel.update_id]
  simp only [Panel.update]
  cases (panel.focus registry text).request? with
  | none => rfl
  | some request =>
      simp only [StateT.run_bind]
      generalize (ask request.command request.args).run state = asked
      rcases asked with ⟨_ | values | _, changed⟩ <;> rfl

theorem Exchange.update_run (ask : Command η → List String → StateM τ Answer)
    (exchange : Exchange η) (registry : Registry η) (text : String) (state : τ) :
    ((exchange.update ask registry text).run state).1.1 =
      (exchange.step (.type registry (fun command args => ((ask command args).run state).1) text)).1 := by
  have hpanel := Panel.update_run ask exchange.panel registry text state
  rw [Exchange.step_type_eq, ← hpanel]
  simp only [Exchange.update, StateT.run_bind]
  generalize (exchange.panel.update ask registry text).run state = updated
  rcases updated with ⟨⟨panel, _ | request⟩, changed⟩ <;> rfl

namespace Suggester

/-- The session that the providers see. -/
def seen (suggester : Suggester σ) (session : Session σ) : Session σ :=
  match suggester.ownContext with
  | none => session
  | some own => { session with context := own }

theorem inContext_run {α : Type} (suggester : Suggester σ) (step : StateM (Session σ) α)
    (session : Session σ) :
    ((suggester.inContext step).run session).1.1 = (step.run (suggester.seen session)).1 ∧
      ((suggester.inContext step).run session).1.2.toExchange = suggester.toExchange := by
  obtain ⟨exchange, own⟩ := suggester
  cases own with
  | none => exact ⟨rfl, rfl⟩
  | some own => exact ⟨rfl, rfl⟩

theorem toExchange_update (suggester : Suggester σ) (canWait : Bool) (text : String)
    (session : Session σ) :
    ((suggester.update canWait text).run session).1.toExchange =
      (suggester.toExchange.step (.type session.registry
        (fun command args => ((Session.ask canWait command args).run (suggester.seen session)).1)
        text)).1 := by
  rw [← Exchange.update_run, ← (suggester.inContext_run _ session).1]
  rfl

/-- Answering a ticket is one step, with what its provider comes to in the session of that moment. -/
theorem toExchange_answer (suggester : Suggester σ) (ticket : Nat) (request : Request (Hooks σ))
    (session : Session σ) :
    ((suggester.answer ticket request).run session).1.toExchange =
      (suggester.toExchange.step (.answer ticket ((Session.offer request.command request.args).run.run
        (suggester.seen session)).1)).1 := by
  have hcontext := suggester.inContext_run (Session.offer request.command request.args).run session
  rw [← hcontext.1, ← hcontext.2]
  rfl

theorem toExchange_settleEach (ready : Nat → Bool) (suggester : Suggester σ) (tickets : List Nat)
    (session : Session σ) :
    ∃ steps : List (Exchange.Step (Hooks σ)),
      (∀ step ∈ steps, ∃ ticket offer, step = .answer ticket offer) ∧
      ((suggester.settleEach ready tickets).run session).1.toExchange =
        suggester.toExchange.run steps := by
  induction tickets generalizing suggester session with
  | nil => exact ⟨[], by simp, rfl⟩
  | cons ticket tickets ih =>
      rw [settleEach]
      split
      · split
        · rename_i request hwaiting hready
          obtain ⟨steps, hsteps, hrun⟩ := ih ((suggester.answer ticket request).run session).1
            ((suggester.answer ticket request).run session).2
          rw [toExchange_answer] at hrun
          refine ⟨_ :: steps, ?_, hrun⟩
          intro step hstep
          rcases List.mem_cons.1 hstep with rfl | hstep
          · exact ⟨_, _, rfl⟩
          · exact hsteps step hstep
        · exact ih suggester session
      · exact ih suggester session

/-- Settling is a row of answers. -/
theorem toExchange_settle (suggester : Suggester σ) (ready : Nat → Bool) (session : Session σ) :
    ∃ steps : List (Exchange.Step (Hooks σ)),
      (∀ step ∈ steps, ∃ ticket offer, step = .answer ticket offer) ∧
      ((suggester.settle ready).run session).1.toExchange = suggester.toExchange.run steps :=
  toExchange_settleEach ready suggester _ session

end Suggester

end Jotter
