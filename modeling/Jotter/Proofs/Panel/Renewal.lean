import Jotter.Proofs.Panel.Run

/-! What a panel shows after a change of the text does not depend on what it was before. Two panels of
the same settings are alike, that is equal but for the generation, after the same change of the text,
and they stay so under the same gestures and under the same answer to the request of that change. An
answer to any older request leaves the panel as it is, so it needs no counterpart. -/

namespace Jotter.Panel

variable {η : Type}

/-- Panels that differ at most in their generation. -/
def Alike (panel other : Panel η) : Prop :=
  { panel with generation := other.generation } = other

namespace Alike

variable {panel other : Panel η}

theorem present (hsettings : panel.settings = other.settings) (htext : panel.text = other.text)
    (hindex : panel.index = other.index) (hdismissed : panel.dismissed = other.dismissed)
    (registry : Registry η) (draft : Draft) :
    Alike (panel.present registry draft) (other.present registry draft) := by
  obtain ⟨settings, text, _, _, index, _, _, dismissed⟩ := panel
  obtain ⟨_, _, _, _, _, _, _, _⟩ := other
  dsimp only at hsettings htext hindex hdismissed
  subst hsettings htext hindex hdismissed
  cases draft with
  | none => rfl
  | name lead => rfl
  | arguments name args =>
      simp only [Panel.present]
      cases name.isEmpty with
      | true => rfl
      | false =>
          cases registry.resolve? name settings.marker <;> rfl

theorem focus (hsettings : panel.settings = other.settings) (registry : Registry η) (text : String) :
    Alike (panel.focus registry text) (other.focus registry text) := by
  rw [Panel.focus, Panel.focus, hsettings]
  have hrenewed : (panel.renew text).settings = (other.renew text).settings := hsettings
  exact present hrenewed rfl rfl rfl registry _

theorem install (halike : Alike panel other) (command : Command η) (values : List String) :
    Alike (panel.install command values) (other.install command values) := by
  rw [← show _ = other from halike]
  rfl

theorem visible (halike : Alike panel other) : panel.visible = other.visible := by
  rw [← show _ = other from halike]
  rfl

theorem moveUp (halike : Alike panel other) : Alike panel.moveUp other.moveUp := by
  unfold Panel.moveUp
  rw [halike.visible]
  split
  · rw [← show _ = other from halike]
    rfl
  · exact halike

theorem moveDown (halike : Alike panel other) : Alike panel.moveDown other.moveDown := by
  unfold Panel.moveDown
  rw [halike.visible]
  split
  · rw [← show _ = other from halike]
    rfl
  · exact halike

theorem dismiss (halike : Alike panel other) : Alike panel.dismiss other.dismiss := by
  rw [← show _ = other from halike]
  rfl

theorem after (halike : Alike panel other) (gesture : Gesture) :
    Alike (panel.after gesture) (other.after gesture) := by
  cases gesture with
  | moveUp => exact halike.moveUp
  | moveDown => exact halike.moveDown
  | dismiss => exact halike.dismiss
  | press key =>
      simp only [Panel.after, press]
      rw [halike.visible]
      split
      · cases key with
        | up => exact halike.moveUp
        | down => exact halike.moveDown
        | escape => exact halike.dismiss
        | _ => exact halike
      · exact halike

/-- Requests of such panels differ at most in their generation as well. -/
theorem request? (halike : Alike panel other) :
    other.request? = panel.request?.map ({ · with generation := other.generation }) := by
  rw [← show _ = other from halike]
  unfold Panel.request?
  cases panel.command? with
  | none => rfl
  | some command =>
      cases Draft.read panel.text panel.settings.marker with
      | arguments name args =>
          simp only
          split <;> rfl
      | _ => rfl

/-- A change of the text makes panels of the same settings alike, and so are the requests that stay. -/
theorem update (hsettings : panel.settings = other.settings)
    (ask : Command η → List String → Answer) (registry : Registry η) (text : String) :
    let updated := Id.run (panel.update (m := Id) ask registry text)
    let otherwise := Id.run (other.update (m := Id) ask registry text)
    Alike updated.1 otherwise.1 ∧
      otherwise.2 = updated.2.map ({ · with generation := otherwise.1.generation }) := by
  have hfocus := Alike.focus hsettings registry text
  have hrequest := hfocus.request?
  rw [update_id, update_id, hrequest]
  cases (panel.focus registry text).request? with
  | none => exact ⟨hfocus, rfl⟩
  | some request =>
      simp only [Option.map_some]
      cases ask request.command request.args with
      | silent => exact ⟨hfocus, rfl⟩
      | now values => exact ⟨hfocus.install request.command values, rfl⟩
      | later => exact ⟨hfocus, rfl⟩

end Alike

end Jotter.Panel

namespace Jotter.Exchange

variable {η : Type}

/-- A ticket as it would have been sent in another generation. -/
def redated (generation : Nat) (held : Ticket η) : Ticket η :=
  { held with request := { held.request with generation := generation } }

/-- An exchange after a change of the text that could send `ticket`, beside one in which nothing had
happened before that change. -/
structure Renewed (ticket : Nat) (exchange other : Exchange η) : Prop where
  panel : exchange.panel.Alike other.panel
  own_iff : ∀ (place : Nat) (request : Request η), exchange.requests[place]? = some request →
    (request.generation = exchange.panel.generation ↔ place = ticket)
  tickets : other.tickets =
    exchange.tickets[ticket]?.toList.map (redated other.panel.generation)

theorem renewed_step_type {exchange other : Exchange η}
    (hsettings : exchange.panel.settings = other.panel.settings)
    (hahead : exchange.NoneAhead) (htickets : other.tickets = []) (registry : Registry η)
    (ask : Command η → List String → Answer) (text : String) :
    Renewed exchange.tickets.length (exchange.step (.type registry ask text)).1
      (other.step (.type registry ask text)).1 := by
  obtain ⟨halike, hstays⟩ := Panel.Alike.update hsettings ask registry text
  have hgeneration := Panel.update_generation ask exchange.panel registry text
  rw [step_type_eq, step_type_eq]
  generalize Id.run (exchange.panel.update (m := Id) ask registry text) = updated
    at halike hstays hgeneration
  generalize Id.run (other.panel.update (m := Id) ask registry text) = otherwise at halike hstays
  obtain ⟨panel, request?⟩ := updated
  obtain ⟨otherPanel, otherRequest?⟩ := otherwise
  dsimp only at hstays
  subst hstays
  have hold : ∀ (place : Nat) (request : Request η), exchange.requests[place]? = some request →
      (request.generation = panel.generation ↔ place = exchange.tickets.length) := by
    intro place request hrequest
    have hlt := (List.getElem?_eq_some_iff.1 hrequest).1
    rw [length_requests] at hlt
    have hbehind := hahead request (List.mem_of_getElem? hrequest)
    have hnow : panel.generation = exchange.panel.generation + 1 := hgeneration.1
    constructor <;> intro h <;> omega
  cases request? with
  | none =>
      refine ⟨halike, hold, ?_⟩
      rw [List.getElem?_eq_none (Nat.le_refl _)]
      exact htickets
  | some request =>
      refine ⟨halike, ?_, ?_⟩
      · intro place sent hsent
        rw [Exchange.requests, List.map_append, List.getElem?_append] at hsent
        split at hsent
        · exact hold place sent hsent
        · rename_i hlast
          obtain rfl : sent = request := List.mem_singleton.1 (List.mem_of_getElem? hsent)
          have hplace := (List.getElem?_eq_some_iff.1 hsent).1
          simp only [List.map_cons, List.map_nil, List.length_map, List.length_singleton] at hlast hplace
          exact iff_of_true ((hgeneration.2 _ rfl).trans hgeneration.1.symm) (by omega)
      · rw [List.getElem?_append_right (Nat.le_refl _), Nat.sub_self, htickets]
        rfl

/-- A step as it is taken in a run that begins with the change of the text that sent `ticket`: an answer
to it comes for the first ticket of that run, and an answer to another ticket does not come at all. -/
def Step.only (ticket : Nat) : Step η → Option (Step η)
  | .answer number offer => if number = ticket then some (.answer 0 offer) else none
  | step => some step

namespace Renewed

variable {ticket : Nat} {exchange other : Exchange η}

theorem getElem?_tickets (hrenewed : Renewed ticket exchange other) :
    other.tickets[0]? = exchange.tickets[ticket]?.map (redated other.panel.generation) := by
  rw [hrenewed.tickets]
  cases exchange.tickets[ticket]? <;> rfl

theorem step_gesture (hrenewed : Renewed ticket exchange other) (gesture : Gesture) :
    Renewed ticket (exchange.step (.gesture gesture)).1 (other.step (.gesture gesture)).1 := by
  refine ⟨hrenewed.panel.after gesture, ?_, ?_⟩
  · intro place request hrequest
    rw [generation_step rfl]
    exact hrenewed.own_iff place request hrequest
  · rw [generation_step rfl]
    exact hrenewed.tickets

/-- The answer to the ticket of the last change of the text does the same to both. -/
theorem step_answer_own (hrenewed : Renewed ticket exchange other) (offer : Offer) :
    Renewed ticket (exchange.step (.answer ticket offer)).1 (other.step (.answer 0 offer)).1 := by
  have hother := hrenewed.getElem?_tickets
  rcases Exchange.step_answer exchange ticket offer with ⟨request, hwaiting⟩ | ⟨hidle, hstep⟩
  · rw [hwaiting] at hother
    have hgeneration := (hrenewed.own_iff ticket request (getElem?_requests hwaiting)).2 rfl
    rw [step_answer_of_waiting hwaiting, if_pos hgeneration]
    rw [step_answer_of_waiting hother, if_pos rfl]
    refine ⟨hrenewed.panel.install _ _, ?_, ?_⟩
    · intro place sent hsent
      rw [requests_set hwaiting] at hsent
      exact hrenewed.own_iff place sent hsent
    · rw [hrenewed.tickets, hwaiting, List.getElem?_set_self (List.getElem?_eq_some_iff.1 hwaiting).1]
      rfl
  · have hotherIdle : ∀ request, other.tickets[0]? ≠ some ⟨request, none⟩ := by
      intro request hwaiting
      rw [hother, Option.map_eq_some_iff] at hwaiting
      obtain ⟨⟨sent, taken⟩, hheld, heq⟩ := hwaiting
      cases heq
      exact hidle sent hheld
    rw [hstep, step_answer_of_not_waiting hotherIdle]
    exact hrenewed

/-- An answer to any other ticket comes too late. -/
theorem step_answer_other (hrenewed : Renewed ticket exchange other) {number : Nat}
    (hne : number ≠ ticket) (offer : Offer) :
    Renewed ticket (exchange.step (.answer number offer)).1 other := by
  rcases Exchange.step_answer exchange number offer with ⟨request, hwaiting⟩ | ⟨-, hstep⟩
  · have hlate : request.generation ≠ exchange.panel.generation := by
      intro hgeneration
      exact hne ((hrenewed.own_iff number request (getElem?_requests hwaiting)).1 hgeneration)
    rw [step_answer_of_waiting hwaiting, if_neg hlate]
    refine ⟨hrenewed.panel, ?_, ?_⟩
    · intro place sent hsent
      rw [requests_set hwaiting] at hsent
      exact hrenewed.own_iff place sent hsent
    · rw [List.getElem?_set_ne hne]
      exact hrenewed.tickets
  · rw [hstep]
    exact hrenewed

theorem run (hrenewed : Renewed ticket exchange other) {steps : List (Step η)}
    (hsteps : ∀ step ∈ steps, step.isTyping = false) :
    Renewed ticket (exchange.run steps) (other.run (steps.filterMap (Step.only ticket))) := by
  induction steps generalizing exchange other with
  | nil => exact hrenewed
  | cons step steps ih =>
      have hrest : ∀ step ∈ steps, step.isTyping = false :=
        fun step hstep => hsteps step (List.mem_cons_of_mem _ hstep)
      cases step with
      | type registry ask text => cases hsteps _ List.mem_cons_self
      | gesture gesture => exact ih (hrenewed.step_gesture gesture) hrest
      | answer number offer =>
          by_cases hnumber : number = ticket
          · subst hnumber
            have honly : Step.only number (.answer number offer : Step η) = some (.answer 0 offer) :=
              if_pos rfl
            rw [List.filterMap_cons_some honly]
            exact ih (hrenewed.step_answer_own offer) hrest
          · have honly : Step.only ticket (.answer number offer : Step η) = none := if_neg hnumber
            rw [List.filterMap_cons_none honly]
            exact ih (hrenewed.step_answer_other hnumber offer) hrest

end Renewed

end Jotter.Exchange
