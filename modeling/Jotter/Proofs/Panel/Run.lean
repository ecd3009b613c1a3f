import Mathlib.Data.List.Induction
import Jotter.Panel.Exchange

/-! Runs of a panel with its tickets: changes of the text, answers to tickets in any order, and the
gestures of the user, which move the highlight, hide the panel or press a key. The commands and what the
providers say are given with each change of the text, and what a provider came to is given with each
answer, so that both are free to change from one step to the next. The main facts are what one step can
do to the panel and to the tickets; all that is said of whole runs rests on them. -/

namespace Jotter

variable {η : Type}

/-- What the user does to a panel without changing the text. -/
inductive Gesture where
  | moveUp
  | moveDown
  | dismiss
  | press (key : Key)
  deriving DecidableEq, Repr

namespace Gesture

def isUp : Gesture → Bool
  | moveUp | press .up => true
  | _ => false

def isDown : Gesture → Bool
  | moveDown | press .down => true
  | _ => false

theorem isUp_eq_false {gesture : Gesture} (hdown : gesture.isDown = true) : gesture.isUp = false := by
  cases gesture with
  | press key => cases key <;> first | rfl | cases hdown
  | _ => first | rfl | cases hdown

end Gesture

namespace Panel

def after (panel : Panel η) : Gesture → Panel η
  | .moveUp => panel.moveUp
  | .moveDown => panel.moveDown
  | .dismiss => panel.dismiss
  | .press key => (panel.press key).1

/-- A gesture touches nothing but the highlight and whether the panel is hidden. -/
theorem after_eq (panel : Panel η) (gesture : Gesture) :
    panel.after gesture = { panel with
      index := (panel.after gesture).index
      dismissed := (panel.after gesture).dismissed } := by
  have hup : panel.moveUp = { panel with index := panel.moveUp.index } := by
    unfold moveUp
    split <;> rfl
  have hdown : panel.moveDown = { panel with index := panel.moveDown.index } := by
    unfold moveDown
    split <;> rfl
  cases gesture with
  | moveUp =>
      simp only [after]
      rw [hup]
  | moveDown =>
      simp only [after]
      rw [hdown]
  | dismiss => rfl
  | press key =>
      simp only [after, press]
      split
      · cases key with
        | up => exact hup ▸ rfl
        | down => exact hdown ▸ rfl
        | _ => rfl
      · rfl

@[simp]
theorem after_settings (panel : Panel η) (gesture : Gesture) :
    (panel.after gesture).settings = panel.settings := by
  rw [after_eq]

@[simp]
theorem after_text (panel : Panel η) (gesture : Gesture) :
    (panel.after gesture).text = panel.text := by
  rw [after_eq]

@[simp]
theorem after_mode (panel : Panel η) (gesture : Gesture) :
    (panel.after gesture).mode = panel.mode := by
  rw [after_eq]

@[simp]
theorem after_suggestions (panel : Panel η) (gesture : Gesture) :
    (panel.after gesture).suggestions = panel.suggestions := by
  rw [after_eq]

@[simp]
theorem after_command? (panel : Panel η) (gesture : Gesture) :
    (panel.after gesture).command? = panel.command? := by
  rw [after_eq]

@[simp]
theorem after_generation (panel : Panel η) (gesture : Gesture) :
    (panel.after gesture).generation = panel.generation := by
  rw [after_eq]

theorem present_eq (panel : Panel η) (registry : Registry η) (draft : Draft) :
    panel.present registry draft = { panel with
      mode := (panel.present registry draft).mode
      suggestions := (panel.present registry draft).suggestions
      command? := (panel.present registry draft).command? } := by
  unfold present
  split
  · rfl
  · rfl
  · split
    · rfl
    · split <;> rfl

/-- A change of the text decides what is shown; all else begins anew, in the next generation. -/
theorem focus_eq (panel : Panel η) (registry : Registry η) (text : String) :
    panel.focus registry text = { panel.renew text with
      mode := (panel.focus registry text).mode
      suggestions := (panel.focus registry text).suggestions
      command? := (panel.focus registry text).command? } :=
  present_eq _ _ _

@[simp]
theorem focus_settings (panel : Panel η) (registry : Registry η) (text : String) :
    (panel.focus registry text).settings = panel.settings := by
  rw [focus_eq]
  rfl

@[simp]
theorem focus_index (panel : Panel η) (registry : Registry η) (text : String) :
    (panel.focus registry text).index = 0 := by
  rw [focus_eq]
  rfl

@[simp]
theorem focus_generation (panel : Panel η) (registry : Registry η) (text : String) :
    (panel.focus registry text).generation = panel.generation + 1 := by
  rw [focus_eq]
  rfl

/-- A request carries the generation of its panel and is for the command that the panel is about. -/
theorem request?_eq_some {panel : Panel η} {request : Request η}
    (hrequest : panel.request? = some request) :
    request.generation = panel.generation ∧ panel.command? = some request.command := by
  unfold request? at hrequest
  split at hrequest
  · split at hrequest
    · cases hrequest
    · cases hrequest
      exact ⟨rfl, by assumption⟩
  · cases hrequest

/-- The panel for a new text when its provider answers. -/
theorem update_id (ask : Command η → List String → Answer) (panel : Panel η)
    (registry : Registry η) (text : String) :
    Id.run (panel.update (m := Id) ask registry text) =
      match (panel.focus registry text).request? with
      | none => (panel.focus registry text, none)
      | some request =>
        match ask request.command request.args with
        | .silent => (panel.focus registry text, none)
        | .now values => ((panel.focus registry text).install request.command values, none)
        | .later => (panel.focus registry text, some request) := by
  simp only [update]
  cases (panel.focus registry text).request? with
  | none => rfl
  | some request => cases hask : ask request.command request.args <;> simp only [hask] <;> rfl

/-- A change of the text shows what the draft asks for. If there is a request, its provider may put in
values at once, or the request stays to be answered. -/
theorem update_cases (ask : Command η → List String → Answer) (panel : Panel η)
    (registry : Registry η) (text : String) :
    let focused := panel.focus registry text
    let updated := Id.run (panel.update (m := Id) ask registry text)
    updated = (focused, none) ∨
    ∃ request, focused.request? = some request ∧
      ((∃ values, updated = (focused.install request.command values, none)) ∨
        updated = (focused, some request)) := by
  intro focused updated
  have hupdated := update_id ask panel registry text
  cases hrequest : focused.request? with
  | none =>
      left
      rw [show (panel.focus registry text).request? = none from hrequest] at hupdated
      exact hupdated
  | some request =>
      rw [show (panel.focus registry text).request? = some request from hrequest] at hupdated
      cases hask : ask request.command request.args with
      | silent =>
          simp only [hask] at hupdated
          exact Or.inl hupdated
      | now values =>
          simp only [hask] at hupdated
          exact Or.inr ⟨request, rfl, Or.inl ⟨values, hupdated⟩⟩
      | later =>
          simp only [hask] at hupdated
          exact Or.inr ⟨request, rfl, Or.inr hupdated⟩

/-- A change of the text begins a new generation, and a request that stays is of that generation. -/
theorem update_generation (ask : Command η → List String → Answer) (panel : Panel η)
    (registry : Registry η) (text : String) :
    let updated := Id.run (panel.update (m := Id) ask registry text)
    updated.1.generation = panel.generation + 1 ∧
      ∀ request, updated.2 = some request → request.generation = panel.generation + 1 := by
  intro updated
  rcases update_cases ask panel registry text with
    hnone | ⟨request, hrequest, ⟨values, hnow⟩ | hlater⟩
  · rw [show updated = _ from hnone]
    refine ⟨focus_generation _ _ _, ?_⟩
    intro request hstays
    cases hstays
  · rw [show updated = _ from hnow]
    refine ⟨focus_generation _ _ _, ?_⟩
    intro request hstays
    cases hstays
  · rw [show updated = _ from hlater]
    refine ⟨focus_generation _ _ _, ?_⟩
    rintro _ ⟨⟩
    rw [(request?_eq_some hrequest).1, focus_generation]

/-- A change of the text puts the highlight on the first entry. -/
theorem update_index (ask : Command η → List String → Answer) (panel : Panel η)
    (registry : Registry η) (text : String) :
    (Id.run (panel.update (m := Id) ask registry text)).1.index = 0 := by
  rcases update_cases ask panel registry text with
    hnone | ⟨request, hrequest, ⟨values, hnow⟩ | hlater⟩
  · rw [hnone, focus_index]
  · rw [hnow]
    rfl
  · rw [hlater, focus_index]

end Panel

namespace Exchange

/-- One thing that happens to a panel and its tickets. -/
inductive Step (η : Type) where
  | type (registry : Registry η) (ask : Command η → List String → Answer) (text : String)
  | answer (ticket : Nat) (offer : Offer)
  | gesture (gesture : Gesture)

/-- What a step tells the one who took it. -/
inductive Reply where
  /-- The ticket that a change of the text has sent. -/
  | typed (ticket : Option Nat)
  /-- Whether an answer was taken; nothing for a ticket that does not wait. -/
  | answered (taken : Option Bool)
  | moved
  /-- Whether a key was acted on, and the text that it made. -/
  | pressed (handled : Bool) (text : Option String)
  deriving DecidableEq, Repr

namespace Step

def isTyping : Step η → Bool
  | type _ _ _ => true
  | _ => false

def isAnswerTo (ticket : Nat) : Step η → Bool
  | answer number _ => number == ticket
  | _ => false

end Step

def replyTo (panel : Panel η) : Gesture → Reply
  | .press key => .pressed (panel.press key).2.1 (panel.press key).2.2
  | _ => .moved

def step (exchange : Exchange η) : Step η → Exchange η × Reply
  | .type registry ask text =>
    let (next, ticket) := Id.run (exchange.update (m := Id) ask registry text)
    (next, .typed ticket)
  | .answer ticket offer =>
    let (next, taken) := exchange.complete ticket offer
    (next, .answered taken)
  | .gesture gesture =>
    ({ exchange with panel := exchange.panel.after gesture }, replyTo exchange.panel gesture)

/-- A step of a run with its reply, between the states before and after it. -/
structure Event (η : Type) where
  before : Exchange η
  step : Step η
  reply : Reply
  after : Exchange η

def event (exchange : Exchange η) (step : Step η) : Event η :=
  ⟨exchange, step, (exchange.step step).2, (exchange.step step).1⟩

/-- The state that a run leads to. -/
def run (exchange : Exchange η) (steps : List (Step η)) : Exchange η :=
  steps.foldl (fun exchange step => (exchange.step step).1) exchange

/-- What happens in a run, step by step. -/
def events (exchange : Exchange η) : List (Step η) → List (Event η)
  | [] => []
  | step :: steps => exchange.event step :: (exchange.step step).1.events steps

theorem run_cons (exchange : Exchange η) (step : Step η) (steps : List (Step η)) :
    exchange.run (step :: steps) = (exchange.step step).1.run steps := rfl

theorem run_append (exchange : Exchange η) (before after : List (Step η)) :
    exchange.run (before ++ after) = (exchange.run before).run after :=
  List.foldl_append

theorem run_concat (exchange : Exchange η) (steps : List (Step η)) (step : Step η) :
    exchange.run (steps ++ [step]) = ((exchange.run steps).step step).1 := by
  rw [run_append]
  rfl

theorem events_append (exchange : Exchange η) (before after : List (Step η)) :
    exchange.events (before ++ after) =
      exchange.events before ++ (exchange.run before).events after := by
  induction before generalizing exchange with
  | nil => rfl
  | cons step before ih =>
      rw [List.cons_append, events, ih]
      rfl

theorem events_concat (exchange : Exchange η) (steps : List (Step η)) (step : Step η) :
    exchange.events (steps ++ [step]) =
      exchange.events steps ++ [(exchange.run steps).event step] := by
  rw [events_append]
  rfl

/-! ### What one step does -/

theorem step_type_eq (exchange : Exchange η) (registry : Registry η)
    (ask : Command η → List String → Answer) (text : String) :
    exchange.step (.type registry ask text) =
      match Id.run (exchange.panel.update (m := Id) ask registry text) with
      | (panel, none) => (⟨panel, exchange.tickets⟩, .typed none)
      | (panel, some request) =>
        (⟨panel, exchange.tickets ++ [{ request := request }]⟩,
          .typed (some exchange.tickets.length)) := by
  simp only [step, update]
  generalize exchange.panel.update (m := Id) ask registry text = updated
  rcases updated with ⟨panel, _ | request⟩ <;> rfl

/-- An answer is taken iff the panel is still of the generation in which its ticket was sent; then its
values are put in. Either way the ticket waits no longer. -/
theorem step_answer_of_waiting {exchange : Exchange η} {ticket : Nat} {request : Request η}
    (hwaiting : exchange.tickets[ticket]? = some ⟨request, none⟩) (offer : Offer) :
    exchange.step (.answer ticket offer) =
      if request.generation = exchange.panel.generation then
        (⟨exchange.panel.install request.command offer.values,
          exchange.tickets.set ticket ⟨request, some true⟩⟩, .answered (some true))
      else
        (⟨exchange.panel, exchange.tickets.set ticket ⟨request, some false⟩⟩,
          .answered (some false)) := by
  simp only [step, complete, hwaiting, Panel.deliver]
  split <;> rfl

theorem step_answer_of_not_waiting {exchange : Exchange η} {ticket : Nat}
    (hwaiting : ∀ request, exchange.tickets[ticket]? ≠ some ⟨request, none⟩) (offer : Offer) :
    exchange.step (.answer ticket offer) = (exchange, .answered none) := by
  have hcomplete : exchange.complete ticket offer = (exchange, none) := by
    unfold complete
    split
    · rename_i request hticket
      exact absurd hticket (hwaiting request)
    · rfl
  rw [step, hcomplete]

/-! ### Requests

The requests behind the tickets, in the order of sending. Only a change of the text adds one. -/

def requests (exchange : Exchange η) : List (Request η) :=
  exchange.tickets.map (·.request)

@[simp]
theorem length_requests (exchange : Exchange η) :
    exchange.requests.length = exchange.tickets.length :=
  List.length_map _

theorem requests_set {exchange : Exchange η} {ticket : Nat} {request : Request η}
    {before : Option Bool} (hheld : exchange.tickets[ticket]? = some ⟨request, before⟩)
    (panel : Panel η) (taken : Option Bool) :
    requests ⟨panel, exchange.tickets.set ticket ⟨request, taken⟩⟩ = exchange.requests := by
  simp only [requests, List.map_set]
  apply List.ext_getElem?
  intro place
  rw [List.getElem?_set]
  split
  · rename_i hplace
    subst hplace
    rw [if_pos (by simpa using (List.getElem?_eq_some_iff.1 hheld).1), List.getElem?_map, hheld]
    rfl
  · rfl

theorem getElem?_requests {exchange : Exchange η} {ticket : Nat} {request : Request η}
    {taken : Option Bool} (hheld : exchange.tickets[ticket]? = some ⟨request, taken⟩) :
    exchange.requests[ticket]? = some request := by
  rw [requests, List.getElem?_map, hheld]
  rfl

/-- An answer either finds its ticket waiting, in which case it is taken or not, or does nothing. -/
theorem step_answer (exchange : Exchange η) (ticket : Nat) (offer : Offer) :
    (∃ request, exchange.tickets[ticket]? = some ⟨request, none⟩) ∨
      (∀ request, exchange.tickets[ticket]? ≠ some ⟨request, none⟩) ∧
        exchange.step (.answer ticket offer) = (exchange, .answered none) := by
  by_cases hwaiting : ∃ request, exchange.tickets[ticket]? = some ⟨request, none⟩
  · exact Or.inl hwaiting
  · have hidle : ∀ request, exchange.tickets[ticket]? ≠ some ⟨request, none⟩ :=
      fun request h => hwaiting ⟨request, h⟩
    exact Or.inr ⟨hidle, step_answer_of_not_waiting hidle offer⟩

/-- An answer leaves the panel as it is or puts values in. -/
theorem panel_answer (exchange : Exchange η) (ticket : Nat) (offer : Offer) :
    (exchange.step (.answer ticket offer)).1.panel = exchange.panel ∨
      ∃ command values,
        (exchange.step (.answer ticket offer)).1.panel = exchange.panel.install command values := by
  rcases step_answer exchange ticket offer with ⟨request, hwaiting⟩ | ⟨-, hidle⟩
  · rw [step_answer_of_waiting hwaiting]
    split
    · exact Or.inr ⟨_, _, rfl⟩
    · exact Or.inl rfl
  · rw [hidle]
    exact Or.inl rfl

theorem requests_step {exchange : Exchange η} {step : Step η} (hstep : step.isTyping = false) :
    (exchange.step step).1.requests = exchange.requests := by
  cases step with
  | type registry ask text => cases hstep
  | answer ticket offer =>
      rcases step_answer exchange ticket offer with ⟨request, hwaiting⟩ | ⟨-, hidle⟩
      · rw [step_answer_of_waiting hwaiting]
        split <;> exact requests_set hwaiting _ _
      · rw [hidle]
  | gesture gesture => rfl

theorem generation_step {exchange : Exchange η} {step : Step η} (hstep : step.isTyping = false) :
    (exchange.step step).1.panel.generation = exchange.panel.generation := by
  cases step with
  | type registry ask text => cases hstep
  | answer ticket offer =>
      rcases panel_answer exchange ticket offer with hsame | ⟨command, values, hinstalled⟩
      · rw [hsame]
      · rw [hinstalled]
        rfl
  | gesture gesture => exact Panel.after_generation _ _

theorem text_step {exchange : Exchange η} {step : Step η} (hstep : step.isTyping = false) :
    (exchange.step step).1.panel.text = exchange.panel.text := by
  cases step with
  | type registry ask text => cases hstep
  | answer ticket offer =>
      rcases panel_answer exchange ticket offer with hsame | ⟨command, values, hinstalled⟩
      · rw [hsame]
      · rw [hinstalled]
        rfl
  | gesture gesture => exact Panel.after_text _ _

theorem command?_step {exchange : Exchange η} {step : Step η} (hstep : step.isTyping = false) :
    (exchange.step step).1.panel.command? = exchange.panel.command? := by
  cases step with
  | type registry ask text => cases hstep
  | answer ticket offer =>
      rcases panel_answer exchange ticket offer with hsame | ⟨command, values, hinstalled⟩
      · rw [hsame]
      · rw [hinstalled]
        rfl
  | gesture gesture => exact Panel.after_command? _ _

@[simp]
theorem settings_step (exchange : Exchange η) (step : Step η) :
    (exchange.step step).1.panel.settings = exchange.panel.settings := by
  cases step with
  | type registry ask text =>
      have hcases := Panel.update_cases ask exchange.panel registry text
      rw [step_type_eq]
      generalize Id.run (exchange.panel.update (m := Id) ask registry text) = updated at hcases
      rcases hcases with rfl | ⟨request, -, ⟨values, rfl⟩ | rfl⟩
      · exact Panel.focus_settings _ _ _
      · exact Panel.focus_settings _ _ _
      · exact Panel.focus_settings _ _ _
  | answer ticket offer =>
      rcases panel_answer exchange ticket offer with hsame | ⟨command, values, hinstalled⟩
      · rw [hsame]
      · rw [hinstalled]
        rfl
  | gesture gesture => exact Panel.after_settings _ _

@[simp]
theorem settings_run (exchange : Exchange η) (steps : List (Step η)) :
    (exchange.run steps).panel.settings = exchange.panel.settings := by
  induction steps generalizing exchange with
  | nil => rfl
  | cons step steps ih => rw [run_cons, ih, settings_step]

theorem reply_step {exchange : Exchange η} {step : Step η} (hstep : step.isTyping = false)
    (ticket : Option Nat) : (exchange.step step).2 ≠ .typed ticket := by
  cases step with
  | type registry ask text => cases hstep
  | answer number offer => exact Reply.noConfusion
  | gesture gesture =>
      cases gesture with
      | press key => exact Reply.noConfusion
      | _ => exact Reply.noConfusion

/-- A change of the text begins a new generation and sends at most one request, which is of that
generation. -/
theorem requests_step_type (exchange : Exchange η) (registry : Registry η)
    (ask : Command η → List String → Answer) (text : String) :
    let next := exchange.step (.type registry ask text)
    next.1.panel.generation = exchange.panel.generation + 1 ∧
      ((next.2 = .typed none ∧ next.1.requests = exchange.requests) ∨
        ∃ request, request.generation = exchange.panel.generation + 1 ∧
          next.2 = .typed (some exchange.requests.length) ∧
          next.1.requests = exchange.requests ++ [request]) := by
  intro next
  have hgeneration := Panel.update_generation ask exchange.panel registry text
  have hnext := step_type_eq exchange registry ask text
  generalize Id.run (exchange.panel.update (m := Id) ask registry text) = updated
    at hgeneration hnext
  rw [show next = _ from hnext]
  rcases updated with ⟨panel, _ | request⟩
  · exact ⟨hgeneration.1, Or.inl ⟨rfl, rfl⟩⟩
  · refine ⟨hgeneration.1, Or.inr ⟨request, hgeneration.2 request rfl, ?_, List.map_append⟩⟩
    rw [length_requests]

/-- No request is of a later generation than the panel. -/
def NoneAhead (exchange : Exchange η) : Prop :=
  ∀ request ∈ exchange.requests, request.generation ≤ exchange.panel.generation

theorem NoneAhead.step {exchange : Exchange η} (hahead : exchange.NoneAhead) (step : Step η) :
    (exchange.step step).1.NoneAhead := by
  intro request hrequest
  cases hstep : step.isTyping with
  | false =>
      rw [requests_step hstep] at hrequest
      rw [generation_step hstep]
      exact hahead request hrequest
  | true =>
      cases step with
      | type registry ask text =>
          obtain ⟨hgeneration, hsends⟩ := requests_step_type exchange registry ask text
          rw [hgeneration]
          rcases hsends with ⟨-, hrequests⟩ | ⟨new, hnew, -, hrequests⟩
          · rw [hrequests] at hrequest
            exact Nat.le_succ_of_le (hahead request hrequest)
          · rw [hrequests, List.mem_append, List.mem_singleton] at hrequest
            rcases hrequest with hold | rfl
            · exact Nat.le_succ_of_le (hahead request hold)
            · exact Nat.le_of_eq hnew
      | answer ticket offer => cases hstep
      | gesture gesture => cases hstep

end Exchange

end Jotter
