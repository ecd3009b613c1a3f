import Jotter.Proofs.Panel.Renewal

/-! Late answers. An answer is late if the text has changed since its ticket was sent; whether it is can
be read off the replies of a run alone. The panel decides by generations instead, and the invariant
`Dated` says that this comes to the same. Hence a late answer is never taken, a run without its late
answers shows the same at every step, and what a panel shows depends on the last change of the text, on
the gestures since then and on the answer to the request of that change, but on nothing older. -/

namespace Jotter.Exchange

variable {η : Type}

/-- Whether a ticket was sent in these events. -/
def sent (ticket : Nat) (past : List (Event η)) : Bool :=
  past.any (·.reply == .typed (some ticket))

/-- Whether a ticket was sent in these events and the text has changed since. -/
def superseded (ticket : Nat) : List (Event η) → Bool
  | [] => false
  | event :: events =>
    (event.reply == .typed (some ticket) && events.any (·.step.isTyping)) || superseded ticket events

/-- Whether an event that comes after `past` is an answer to a superseded ticket. -/
def Event.isLate (past : List (Event η)) (event : Event η) : Bool :=
  match event.step with
  | .answer ticket _ => superseded ticket past
  | _ => false

/-- The events that are not late, where `past` is what happened before them. -/
def timely (past : List (Event η)) : List (Event η) → List (Event η)
  | [] => []
  | event :: events =>
    if event.isLate past then timely (past ++ [event]) events
    else event :: timely (past ++ [event]) events

/-- What is seen of an event: the reply and then the panel. -/
def Event.seen (event : Event η) : Reply × Panel η :=
  (event.reply, event.after.panel)

theorem sent_concat (ticket : Nat) (past : List (Event η)) (event : Event η) :
    sent ticket (past ++ [event]) = (sent ticket past || event.reply == .typed (some ticket)) := by
  simp only [sent, List.any_append, List.any_cons, List.any_nil, Bool.or_false]

theorem superseded_concat (ticket : Nat) (past : List (Event η)) (event : Event η) :
    superseded ticket (past ++ [event]) =
      (superseded ticket past || (sent ticket past && event.step.isTyping)) := by
  induction past with
  | nil => simp [superseded, sent]
  | cons first past ih =>
      rw [List.cons_append, superseded, superseded, ih]
      simp only [sent, List.any_append, List.any_cons, List.any_nil, Bool.or_false]
      cases first.reply == Reply.typed (some ticket) <;> cases past.any (·.step.isTyping) <;>
        cases superseded ticket past <;> simp

theorem sent_of_superseded {ticket : Nat} {past : List (Event η)}
    (hsuperseded : superseded ticket past = true) : sent ticket past = true := by
  induction past with
  | nil => cases hsuperseded
  | cons first past ih =>
      simp only [superseded, Bool.or_eq_true, Bool.and_eq_true] at hsuperseded
      simp only [sent, List.any_cons, Bool.or_eq_true]
      rcases hsuperseded with ⟨hfirst, -⟩ | hpast
      · exact Or.inl hfirst
      · exact Or.inr (ih hpast)

/-! ### Generations tell what is late -/

/-- The generations of the requests fit what has happened: none is ahead of the panel, and one is
behind it iff the text has changed since the request was sent. -/
structure Dated (past : List (Event η)) (exchange : Exchange η) : Prop where
  sent_iff : ∀ ticket, sent ticket past = true ↔ ticket < exchange.requests.length
  none_ahead : exchange.NoneAhead
  superseded_iff : ∀ ticket request, exchange.requests[ticket]? = some request →
    (superseded ticket past = true ↔ request.generation ≠ exchange.panel.generation)

theorem dated_start (settings : PanelSettings) : Dated [] (start settings : Exchange η) where
  sent_iff ticket := by simp [sent, requests, start]
  none_ahead request hrequest := by simp [requests, start] at hrequest
  superseded_iff ticket request hrequest := by simp [requests, start] at hrequest

namespace Dated

variable {past : List (Event η)} {exchange : Exchange η}

theorem step_of_not_typing (hdated : Dated past exchange) {step : Step η}
    (hstep : step.isTyping = false) :
    Dated (past ++ [exchange.event step]) (exchange.step step).1 := by
  have hreply : ∀ ticket, ((exchange.event step).reply == .typed (some ticket)) = false := by
    intro ticket
    exact beq_false_of_ne (reply_step hstep _)
  refine ⟨?_, hdated.none_ahead.step step, ?_⟩
  · intro ticket
    rw [sent_concat, hreply, Bool.or_false, requests_step hstep]
    exact hdated.sent_iff ticket
  · intro ticket request hrequest
    rw [requests_step hstep] at hrequest
    rw [superseded_concat, show (exchange.event step).step.isTyping = false from hstep, Bool.and_false,
      Bool.or_false, generation_step hstep]
    exact hdated.superseded_iff ticket request hrequest

/-- A change of the text leaves every request of before behind. -/
theorem step_type (hdated : Dated past exchange) (registry : Registry η)
    (ask : Command η → List String → Answer) (text : String) :
    Dated (past ++ [exchange.event (.type registry ask text)])
      (exchange.step (.type registry ask text)).1 := by
  obtain ⟨hgeneration, hsends⟩ := requests_step_type exchange registry ask text
  have hahead := hdated.none_ahead.step (.type registry ask text)
  have hbefore : ∀ ticket request, exchange.requests[ticket]? = some request →
      superseded ticket (past ++ [exchange.event (.type registry ask text)]) = true ∧
        request.generation < exchange.panel.generation + 1 := by
    intro ticket request hrequest
    have hsent := (hdated.sent_iff ticket).2 (List.getElem?_eq_some_iff.1 hrequest).1
    refine ⟨?_, Nat.lt_succ_of_le (hdated.none_ahead _ (List.mem_of_getElem? hrequest))⟩
    rw [superseded_concat, hsent]
    exact Bool.or_true _
  rcases hsends with ⟨hreply, hrequests⟩ | ⟨new, hnew, hreply, hrequests⟩
  · refine ⟨?_, hahead, ?_⟩
    · intro ticket
      rw [sent_concat, hrequests, ← hdated.sent_iff ticket]
      simp [event, hreply]
    · intro ticket request hrequest
      rw [hrequests] at hrequest
      obtain ⟨hlate, hlt⟩ := hbefore ticket request hrequest
      rw [hgeneration]
      exact iff_of_true hlate (Nat.ne_of_lt hlt)
  · have hunsent : sent exchange.requests.length past = false := by
      rw [Bool.eq_false_iff]
      intro hsent
      exact Nat.lt_irrefl _ ((hdated.sent_iff _).1 hsent)
    refine ⟨?_, hahead, ?_⟩
    · intro ticket
      rw [sent_concat, hrequests, Bool.or_eq_true, hdated.sent_iff ticket, List.length_append]
      simp only [event, hreply, beq_iff_eq, Reply.typed.injEq, Option.some.injEq,
        List.length_singleton]
      omega
    · intro ticket request hrequest
      rw [hgeneration]
      rw [hrequests] at hrequest
      by_cases hticket : ticket < exchange.requests.length
      · rw [List.getElem?_append_left hticket] at hrequest
        obtain ⟨hlate, hlt⟩ := hbefore ticket request hrequest
        exact iff_of_true hlate (Nat.ne_of_lt hlt)
      · have hlast : ticket = exchange.requests.length := by
          have hlt := (List.getElem?_eq_some_iff.1 hrequest).1
          rw [List.length_append, List.length_singleton] at hlt
          omega
        subst hlast
        rw [List.getElem?_append_right (Nat.le_refl _), Nat.sub_self] at hrequest
        cases hrequest
        rw [superseded_concat, hunsent]
        refine iff_of_false ?_ (fun hne => hne hnew)
        intro hlate
        rw [Bool.false_and, Bool.or_false] at hlate
        rw [sent_of_superseded hlate] at hunsent
        cases hunsent

theorem step (hdated : Dated past exchange) (step : Step η) :
    Dated (past ++ [exchange.event step]) (exchange.step step).1 := by
  cases hstep : step.isTyping with
  | false => exact hdated.step_of_not_typing hstep
  | true =>
      cases step with
      | type registry ask text => exact hdated.step_type registry ask text
      | answer ticket offer => cases hstep
      | gesture gesture => cases hstep

end Dated

theorem dated_run (settings : PanelSettings) (steps : List (Step η)) :
    Dated ((start settings).events steps) ((start settings).run steps) := by
  induction steps using List.reverseRecOn with
  | nil => exact dated_start settings
  | append_singleton steps step ih =>
      rw [events_concat, run_concat]
      exact ih.step step

/-! ### A run without its late answers -/

/-- Two exchanges that differ at most in what became of tickets of older generations. -/
structure Agree (exchange other : Exchange η) : Prop where
  panel : exchange.panel = other.panel
  requests : exchange.requests = other.requests
  current : ∀ (ticket : Nat) (held : Ticket η), exchange.tickets[ticket]? = some held →
    held.request.generation = exchange.panel.generation → other.tickets[ticket]? = some held

namespace Agree

variable {exchange other : Exchange η}

theorem refl (exchange : Exchange η) : Agree exchange exchange :=
  ⟨rfl, rfl, fun _ _ hheld _ => hheld⟩

theorem length_tickets (hagree : Agree exchange other) :
    exchange.tickets.length = other.tickets.length := by
  rw [← length_requests, hagree.requests, length_requests]

theorem step_type (hagree : Agree exchange other)
    (hahead : exchange.NoneAhead) (registry : Registry η) (ask : Command η → List String → Answer) (text : String) :
    (exchange.step (.type registry ask text)).2 = (other.step (.type registry ask text)).2 ∧
      Agree (exchange.step (.type registry ask text)).1 (other.step (.type registry ask text)).1 := by
  have hgeneration := (Panel.update_generation ask exchange.panel registry text).1
  rw [step_type_eq, step_type_eq, ← hagree.panel, ← hagree.length_tickets]
  generalize Id.run (exchange.panel.update (m := Id) ask registry text) = updated at hgeneration
  -- a ticket of before is of an older generation than the panel is now
  have hold : ∀ (ticket : Nat) (held : Ticket η), exchange.tickets[ticket]? = some held →
      held.request.generation ≠ updated.1.generation := by
    intro ticket held hheld
    have := hahead _ (List.mem_map_of_mem (List.mem_of_getElem? hheld))
    omega
  rcases updated with ⟨panel, _ | request⟩
  · refine ⟨rfl, rfl, hagree.requests, ?_⟩
    intro ticket held hheld hcurrent
    exact absurd hcurrent (hold ticket held hheld)
  · refine ⟨rfl, rfl, ?_, ?_⟩
    · have := hagree.requests
      simp only [Exchange.requests, List.map_append] at this ⊢
      rw [this]
    · intro ticket held hheld hcurrent
      by_cases hticket : ticket < exchange.tickets.length
      · rw [List.getElem?_append_left hticket] at hheld
        exact absurd hcurrent (hold ticket held hheld)
      · rw [List.getElem?_append_right (Nat.le_of_not_lt hticket)] at hheld
        rw [List.getElem?_append_right (hagree.length_tickets ▸ Nat.le_of_not_lt hticket),
          ← hagree.length_tickets]
        exact hheld

theorem step_gesture (hagree : Agree exchange other) (gesture : Gesture) :
    (exchange.step (.gesture gesture)).2 = (other.step (.gesture gesture)).2 ∧
      Agree (exchange.step (.gesture gesture)).1 (other.step (.gesture gesture)).1 := by
  refine ⟨congrArg (replyTo · gesture) hagree.panel, congrArg (Panel.after · gesture) hagree.panel,
    hagree.requests, ?_⟩
  intro ticket held hheld hcurrent
  exact hagree.current ticket held hheld (hcurrent.trans (Panel.after_generation _ _))

/-- An answer to a ticket of the panel's own generation does the same to both. -/
theorem step_answer (hagree : Agree exchange other) {ticket : Nat}
    (hcurrent : ∀ request, exchange.requests[ticket]? = some request →
      request.generation = exchange.panel.generation) (offer : Offer) :
    (exchange.step (.answer ticket offer)).2 = (other.step (.answer ticket offer)).2 ∧
      Agree (exchange.step (.answer ticket offer)).1 (other.step (.answer ticket offer)).1 := by
  have hsame : other.tickets[ticket]? = exchange.tickets[ticket]? := by
    cases hheld : exchange.tickets[ticket]? with
    | none =>
        rw [List.getElem?_eq_none_iff, hagree.length_tickets] at hheld
        exact List.getElem?_eq_none hheld
    | some held => exact hagree.current ticket held hheld (hcurrent _ (getElem?_requests hheld))
  rcases Exchange.step_answer exchange ticket offer with ⟨request, hwaiting⟩ | ⟨hidle, hstep⟩
  · have hgeneration := hcurrent request (getElem?_requests hwaiting)
    have hother : other.tickets[ticket]? = some ⟨request, none⟩ := hsame.trans hwaiting
    rw [step_answer_of_waiting hwaiting, step_answer_of_waiting hother, ← hagree.panel,
      if_pos hgeneration, if_pos hgeneration]
    refine ⟨rfl, rfl, ?_, ?_⟩
    · rw [requests_set hwaiting, requests_set hother, hagree.requests]
    · intro place held hheld hplace
      rw [List.getElem?_set] at hheld ⊢
      rw [← hagree.length_tickets]
      split at hheld
      · rename_i heq
        rw [if_pos heq]
        exact hheld
      · rename_i hne
        rw [if_neg hne]
        exact hagree.current place held hheld hplace
  · rw [hstep, step_answer_of_not_waiting (fun request => hsame ▸ hidle request)]
    exact ⟨rfl, hagree⟩

/-- An answer to a ticket of an older generation changes nothing that the two have in common. -/
theorem answer_late (hagree : Agree exchange other) {ticket : Nat} {request : Request η}
    (hrequest : exchange.requests[ticket]? = some request)
    (hlate : request.generation ≠ exchange.panel.generation) (offer : Offer) :
    Agree (exchange.step (.answer ticket offer)).1 other := by
  rcases Exchange.step_answer exchange ticket offer with ⟨waiting, hwaiting⟩ | ⟨-, hstep⟩
  · obtain rfl : waiting = request :=
      Option.some.inj ((getElem?_requests hwaiting).symm.trans hrequest)
    rw [step_answer_of_waiting hwaiting, if_neg hlate]
    refine ⟨hagree.panel, ?_, ?_⟩
    · rw [requests_set hwaiting, hagree.requests]
    · intro place held hheld hplace
      rw [List.getElem?_set] at hheld
      split at hheld
      · split at hheld
        · cases hheld
          exact absurd hplace hlate
        · cases hheld
      · exact hagree.current place held hheld hplace
  · rw [hstep]
    exact hagree

/-- A step that is not late does the same to both. -/
theorem step (hagree : Agree exchange other) {past : List (Event η)} (hdated : Dated past exchange)
    {step : Step η} (htimely : (exchange.event step).isLate past = false) :
    (exchange.step step).2 = (other.step step).2 ∧
      Agree (exchange.step step).1 (other.step step).1 := by
  cases step with
  | type registry ask text => exact hagree.step_type hdated.none_ahead registry ask text
  | answer ticket offer =>
      refine hagree.step_answer ?_ offer
      intro request hrequest
      by_contra hlate
      have hsuperseded := (hdated.superseded_iff ticket request hrequest).2 hlate
      exact Bool.false_ne_true (htimely.symm.trans hsuperseded)
  | gesture gesture => exact hagree.step_gesture gesture

/-- A late step changes nothing that the two have in common. -/
theorem skip (hagree : Agree exchange other) {past : List (Event η)} (hdated : Dated past exchange)
    {step : Step η} (hlate : (exchange.event step).isLate past = true) :
    Agree (exchange.step step).1 other := by
  cases step with
  | type registry ask text => cases hlate
  | answer ticket offer =>
      have hsuperseded : superseded ticket past = true := hlate
      have hlength := (hdated.sent_iff ticket).1 (sent_of_superseded hsuperseded)
      have hrequest := List.getElem?_eq_getElem hlength
      exact hagree.answer_late hrequest ((hdated.superseded_iff _ _ hrequest).1 hsuperseded) offer
  | gesture gesture => cases hlate

end Agree

theorem seen_timely {past : List (Event η)} {exchange other : Exchange η}
    (hdated : Dated past exchange) (hagree : Agree exchange other) (steps : List (Step η)) :
    (other.events ((timely past (exchange.events steps)).map Event.step)).map Event.seen =
      (timely past (exchange.events steps)).map Event.seen := by
  induction steps generalizing past exchange other with
  | nil => rfl
  | cons step steps ih =>
      rw [events, timely]
      cases hlate : (exchange.event step).isLate past with
      | true =>
          rw [if_pos rfl]
          exact ih (hdated.step step) (hagree.skip hdated hlate)
      | false =>
          obtain ⟨hreply, hnext⟩ := hagree.step hdated hlate
          rw [if_neg Bool.false_ne_true, List.map_cons, List.map_cons, events, List.map_cons]
          refine congrArg₂ List.cons ?_ (ih (hdated.step step) hnext)
          exact Prod.ext hreply.symm hnext.panel.symm

/-! ### What becomes of an answer -/

/-- A ticket waits until it is answered. -/
theorem taken_eq_none (settings : PanelSettings) {steps : List (Step η)} {ticket : Nat}
    (hsteps : ∀ step ∈ steps, step.isAnswerTo ticket = false) {held : Ticket η}
    (hheld : ((start settings).run steps).tickets[ticket]? = some held) : held.taken = none := by
  induction steps using List.reverseRecOn generalizing held with
  | nil => cases hheld
  | append_singleton steps step ih =>
      have ih := fun held hheld => @ih (fun step hstep => hsteps step (by simp [hstep])) held hheld
      have hstep := hsteps step (by simp)
      rw [run_concat] at hheld
      generalize (start settings).run steps = exchange at ih hheld
      cases step with
      | type registry ask text =>
          rw [step_type_eq] at hheld
          generalize Id.run (exchange.panel.update (m := Id) ask registry text) = updated at hheld
          rcases updated with ⟨panel, _ | request⟩
          · exact ih held hheld
          · rw [List.getElem?_append] at hheld
            split at hheld
            · exact ih held hheld
            · rw [List.mem_singleton.1 (List.mem_of_getElem? hheld)]
      | answer number offer =>
          have hne : number ≠ ticket := by simpa [Step.isAnswerTo] using hstep
          rcases Exchange.step_answer exchange number offer with ⟨request, hwaiting⟩ | ⟨-, hidle⟩
          · have hset : ∀ taken, (exchange.tickets.set number ⟨request, taken⟩)[ticket]? =
                exchange.tickets[ticket]? := by
              intro taken
              rw [List.getElem?_set, if_neg hne]
            rw [step_answer_of_waiting hwaiting] at hheld
            split at hheld <;> exact ih held (hset _ ▸ hheld)
          · rw [hidle] at hheld
            exact ih held hheld
      | gesture gesture => exact ih held hheld

/-- The first answer to a ticket is taken iff the text has not changed since the ticket was sent. -/
theorem reply_answer (settings : PanelSettings) {steps : List (Step η)} {ticket : Nat}
    (hsent : sent ticket ((start settings).events steps) = true)
    (hsteps : ∀ step ∈ steps, step.isAnswerTo ticket = false) (offer : Offer) :
    (((start settings).run steps).step (.answer ticket offer)).2 =
      .answered (some !superseded ticket ((start settings).events steps)) := by
  have hdated := dated_run settings steps
  have hlength := (hdated.sent_iff ticket).1 hsent
  rw [length_requests] at hlength
  have hheld := List.getElem?_eq_getElem hlength
  have htaken := taken_eq_none settings hsteps hheld
  generalize ((start settings).run steps).tickets[ticket] = held at hheld htaken
  obtain ⟨request, _⟩ := held
  subst htaken
  have hlate := hdated.superseded_iff ticket request (getElem?_requests hheld)
  rw [step_answer_of_waiting hheld]
  split
  · rename_i hgeneration
    rw [Bool.eq_false_iff.2 (fun h => hlate.1 h hgeneration)]
    rfl
  · rename_i hgeneration
    rw [hlate.2 hgeneration]
    rfl

/-! ### Late answers leave no trace -/

/-- The first answer to a ticket is taken iff the text has not changed since the ticket was sent. A run
without its late answers has the same replies and shows the same panels at all other steps. Apart from
its generation, the panel is that of a run which begins with the last change of the text and goes on
with the gestures and the answer to the ticket of that change, in their order. -/
theorem late_answers_leave_no_trace (settings : PanelSettings) (steps : List (Step η)) :
    let fresh : Exchange η := start settings
    (∀ before ticket offer after, steps = before ++ .answer ticket offer :: after →
      sent ticket (fresh.events before) = true →
      (∀ step ∈ before, step.isAnswerTo ticket = false) →
      ((fresh.run before).step (.answer ticket offer)).2 =
        .answered (some !superseded ticket (fresh.events before))) ∧
    (fresh.events ((timely [] (fresh.events steps)).map Event.step)).map Event.seen =
      (timely [] (fresh.events steps)).map Event.seen ∧
    ∀ before registry ask text after, steps = before ++ .type registry ask text :: after →
      (∀ step ∈ after, step.isTyping = false) →
      (fresh.run steps).panel.Alike (fresh.run (.type registry ask text ::
        after.filterMap (Step.only (fresh.run before).tickets.length))).panel := by
  intro fresh
  refine ⟨?_, seen_timely (dated_start settings) (Agree.refl _) steps, ?_⟩
  · intro before ticket offer after _ hsent hbefore
    exact reply_answer settings hsent hbefore offer
  · intro before registry ask text after hsteps hafter
    have hsettings : (fresh.run before).panel.settings = fresh.panel.settings :=
      settings_run fresh before
    have hempty : fresh.tickets = [] := rfl
    have hrenewed := renewed_step_type hsettings (dated_run settings before).none_ahead hempty
      registry ask text
    rw [hsteps, run_append]
    exact (hrenewed.run hafter).panel

/-- Two requests are on their way when the first is answered. -/
theorem late_answer_between_changes :
    let command : Command Unit := ⟨"tag", "", .tag, [], "", [], true, ()⟩
    let typed (text : String) : Step Unit := .type ⟨[(command.key, command)]⟩ (fun _ _ => .later) text
    let before := [typed "/tag a", typed "/tag ab"]
    sent 0 ((start {}).events before) = true ∧
      (((start {}).run before).step (.answer 0 (.ok (some ["work"])))).2 = .answered (some false) := by
  intro command typed before
  have hsent : sent 0 ((start {}).events before) = true := by decide +kernel
  have hlate : superseded 0 ((start {}).events before) = true := by decide +kernel
  have hreply := (late_answers_leave_no_trace {} (before ++ [.answer 0 (.ok (some ["work"]))])).1
    before 0 (.ok (some ["work"])) [] rfl hsent (by decide)
  rw [hlate] at hreply
  exact ⟨hsent, hreply⟩

end Jotter.Exchange
