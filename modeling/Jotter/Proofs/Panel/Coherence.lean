import Mathlib.Tactic.Ring
import Jotter.Proofs.Panel.Freshness

/-! What holds of a panel in every state that a run can reach: the highlight is on an entry if there is
one, the entries are of the kind and of the command that the mode asks for and no more than the cap, the
highlight has moved by as many entries as it was moved since the entries were put in, and a dismissed
panel stays hidden until the text changes. The first two need that a waiting ticket of the present
generation is for the command that the panel is about. -/

namespace Jotter

variable {η : Type}

namespace Panel

/-- What the mode of a panel promises of its entries, and where the highlight can be. -/
structure Coherent (panel : Panel η) : Prop where
  index_eq_zero : panel.suggestions = [] → panel.index = 0
  index_lt : panel.suggestions ≠ [] → panel.index < panel.suggestions.length
  idle : panel.mode = .idle → panel.suggestions = [] ∧ panel.command? = none
  names : panel.mode = .commandName → panel.command? = none ∧
    (∀ suggestion ∈ panel.suggestions, suggestion.kind = .commandName) ∧
    ∀ cap : Nat, panel.settings.commandCap = some (cap : Int) → panel.suggestions.length ≤ cap
  arguments : panel.mode = .arguments → ∃ command, panel.command? = some command ∧
    (∀ suggestion ∈ panel.suggestions,
      suggestion.kind = .arguments ∧ suggestion.command = command) ∧
    ∀ cap : Nat, panel.settings.argumentCap = some (cap : Int) → panel.suggestions.length ≤ cap

theorem coherent_start (settings : PanelSettings) : Coherent ({ settings := settings } : Panel η) where
  index_eq_zero _ := rfl
  index_lt h := absurd rfl h
  idle _ := ⟨rfl, rfl⟩
  names h := by cases h
  arguments h := by cases h

theorem coherent_reset {panel : Panel η} (hindex : panel.index = 0) : Coherent panel.reset where
  index_eq_zero _ := hindex
  index_lt h := absurd rfl h
  idle _ := ⟨rfl, rfl⟩
  names h := by cases h
  arguments h := by cases h

theorem coherent_showNames {panel : Panel η} (hindex : panel.index = 0) (registry : Registry η)
    (lead : String) : Coherent (panel.showNames registry lead) where
  index_eq_zero _ := hindex
  index_lt h := by
    rw [show (panel.showNames registry lead).index = 0 from hindex]
    exact List.length_pos_iff.2 h
  idle h := by cases h
  names _ := by
    refine ⟨rfl, ?_, ?_⟩
    · intro suggestion hsuggestion
      obtain ⟨command, -, rfl⟩ := List.mem_map.1 hsuggestion
      rfl
    · intro cap hcap
      have hcap : panel.settings.commandCap = some (cap : Int) := hcap
      simp only [showNames, hcap, List.length_map]
      exact length_capped_le cap _
  arguments h := by cases h

theorem coherent_showArguments {panel : Panel η} (hindex : panel.index = 0) (command : Command η) :
    Coherent (panel.showArguments command) where
  index_eq_zero _ := hindex
  index_lt h := absurd rfl h
  idle h := by cases h
  names h := by cases h
  arguments _ := ⟨command, rfl, fun _ h => absurd h List.not_mem_nil, fun cap _ => Nat.zero_le cap⟩

theorem coherent_focus (panel : Panel η) (registry : Registry η) (text : String) :
    Coherent (panel.focus registry text) := by
  unfold focus present
  split
  · exact coherent_reset rfl
  · exact coherent_showNames rfl registry _
  · split
    · exact coherent_reset rfl
    · split
      · exact coherent_showArguments rfl _
      · exact coherent_reset rfl

/-- Where a gesture leaves the highlight. -/
theorem after_index (panel : Panel η) (gesture : Gesture) :
    (panel.after gesture).index =
      if panel.visible && gesture.isDown then (panel.index + 1) % panel.suggestions.length
      else if panel.visible && gesture.isUp then
        (panel.index + panel.suggestions.length - 1) % panel.suggestions.length
      else panel.index := by
  cases hvisible : panel.visible with
  | true =>
      cases gesture with
      | press key => cases key <;> simp [after, press, moveUp, moveDown, dismiss, hvisible, Gesture.isDown, Gesture.isUp]
      | _ => simp [after, moveUp, moveDown, dismiss, hvisible, Gesture.isDown, Gesture.isUp]
  | false =>
      cases gesture <;> simp [after, press, moveUp, moveDown, dismiss, hvisible]

theorem suggestions_ne_nil {panel : Panel η} (hvisible : panel.visible = true) :
    panel.suggestions ≠ [] := by
  intro hnil
  rw [visible, hnil] at hvisible
  cases hvisible

/-- Only a change of the text shows a dismissed panel again. -/
theorem after_dismissed {panel : Panel η} (hdismissed : panel.dismissed = true) (gesture : Gesture) :
    (panel.after gesture).dismissed = true := by
  have hvisible : panel.visible = false := by
    rw [visible, hdismissed]
    exact Bool.and_false _
  cases gesture with
  | dismiss => rfl
  | _ =>
      simp only [after, moveUp, moveDown, press, hvisible]
      exact hdismissed

namespace Coherent

variable {panel : Panel η}

/-- A panel that is about a command shows its arguments. -/
theorem mode_eq_arguments (hpanel : panel.Coherent) {command : Command η}
    (hcommand : panel.command? = some command) : panel.mode = .arguments := by
  cases hmode : panel.mode with
  | idle =>
      rw [(hpanel.idle hmode).2] at hcommand
      cases hcommand
  | commandName =>
      rw [(hpanel.names hmode).1] at hcommand
      cases hcommand
  | arguments => rfl

/-- Values that are put in keep a panel coherent if they are for the command that it is about. -/
theorem install (hpanel : panel.Coherent) {command : Command η}
    (hcommand : panel.command? = some command) (values : List String) :
    (panel.install command values).Coherent := by
  have hmode : (panel.install command values).mode = .arguments := hpanel.mode_eq_arguments hcommand
  refine ⟨fun _ => rfl, fun h => List.length_pos_iff.2 h, ?_, ?_, ?_⟩
  · intro hidle
    rw [hmode] at hidle
    cases hidle
  · intro hnames
    rw [hmode] at hnames
    cases hnames
  · intro _
    refine ⟨command, hcommand, ?_, ?_⟩
    · intro suggestion hsuggestion
      obtain ⟨value, -, rfl⟩ := List.mem_map.1 hsuggestion
      exact ⟨rfl, rfl⟩
    · intro cap hcap
      have hcap : panel.settings.argumentCap = some (cap : Int) := hcap
      simp only [Panel.install, hcap, List.length_map]
      exact length_capped_le cap _

theorem after (hpanel : panel.Coherent) (gesture : Gesture) : (panel.after gesture).Coherent := by
  refine ⟨?_, ?_, ?_, ?_, ?_⟩
  · intro hnil
    rw [after_suggestions] at hnil
    have hvisible : panel.visible = false := by
      rw [visible, hnil]
      rfl
    rw [after_index, hvisible]
    exact hpanel.index_eq_zero hnil
  · intro hne
    rw [after_suggestions] at hne
    have hpos := List.length_pos_iff.2 hne
    rw [after_index, after_suggestions]
    split
    · exact Nat.mod_lt _ hpos
    · split
      · exact Nat.mod_lt _ hpos
      · exact hpanel.index_lt hne
  · simpa only [after_mode, after_suggestions, after_command?] using hpanel.idle
  · simpa only [after_mode, after_suggestions, after_command?, after_settings] using hpanel.names
  · simpa only [after_mode, after_suggestions, after_command?, after_settings] using hpanel.arguments

end Coherent

end Panel

namespace Exchange

/-! ### Modes and entries -/

/-- What every reachable state keeps: the panel is coherent, and a request of its generation is for the
command that it is about. -/
structure Attuned (exchange : Exchange η) : Prop where
  panel : exchange.panel.Coherent
  none_ahead : exchange.NoneAhead
  command : ∀ request ∈ exchange.requests, request.generation = exchange.panel.generation →
    exchange.panel.command? = some request.command

theorem attuned_start (settings : PanelSettings) : (start settings : Exchange η).Attuned where
  panel := Panel.coherent_start settings
  none_ahead _ h := absurd h List.not_mem_nil
  command _ h := absurd h List.not_mem_nil

namespace Attuned

variable {exchange : Exchange η}

theorem step_type (hattuned : exchange.Attuned) (registry : Registry η)
    (ask : Command η → List String → Answer) (text : String) :
    (exchange.step (.type registry ask text)).1.Attuned := by
  have hold : ∀ request ∈ exchange.requests, request.generation < exchange.panel.generation + 1 :=
    fun request hrequest => Nat.lt_succ_of_le (hattuned.none_ahead request hrequest)
  have hahead := hattuned.none_ahead.step (.type registry ask text)
  have hfocus := Panel.coherent_focus exchange.panel registry text
  have hcases := Panel.update_cases ask exchange.panel registry text
  have hgeneration := Panel.update_generation ask exchange.panel registry text
  rw [step_type_eq] at hahead ⊢
  generalize Id.run (exchange.panel.update (m := Id) ask registry text) = updated
    at hcases hgeneration hahead
  have hpanel : updated.1.Coherent ∧ ∀ request, updated.2 = some request →
      updated.1.command? = some request.command := by
    rcases hcases with rfl | ⟨request, hrequest, ⟨values, rfl⟩ | rfl⟩
    · refine ⟨hfocus, ?_⟩
      intro request hstays
      cases hstays
    · refine ⟨hfocus.install (Panel.request?_eq_some hrequest).2 values, ?_⟩
      intro request hstays
      cases hstays
    · refine ⟨hfocus, ?_⟩
      rintro _ ⟨⟩
      exact (Panel.request?_eq_some hrequest).2
  obtain ⟨panel, _ | new⟩ := updated
  · refine ⟨hpanel.1, hahead, ?_⟩
    intro request hrequest hcurrent
    exact absurd (hcurrent.trans hgeneration.1) (Nat.ne_of_lt (hold request hrequest))
  · have hrequests : requests ⟨panel, exchange.tickets ++ [{ request := new }]⟩ =
        exchange.requests ++ [new] := List.map_append
    refine ⟨hpanel.1, hahead, ?_⟩
    intro request hrequest hcurrent
    rw [hrequests, List.mem_append, List.mem_singleton] at hrequest
    rcases hrequest with hrequest | rfl
    · exact absurd (hcurrent.trans hgeneration.1) (Nat.ne_of_lt (hold request hrequest))
    · exact hpanel.2 request rfl

/-- Only a change of the text changes which requests there are and what the panel is about. -/
theorem step_of_not_typing (hattuned : exchange.Attuned) {step : Step η}
    (hstep : step.isTyping = false) (hpanel : (exchange.step step).1.panel.Coherent) :
    (exchange.step step).1.Attuned := by
  refine ⟨hpanel, hattuned.none_ahead.step step, ?_⟩
  rw [requests_step hstep, generation_step hstep, command?_step hstep]
  exact hattuned.command

theorem step_answer (hattuned : exchange.Attuned) (ticket : Nat) (offer : Offer) :
    (exchange.step (.answer ticket offer)).1.Attuned := by
  refine hattuned.step_of_not_typing rfl ?_
  rcases Exchange.step_answer exchange ticket offer with ⟨request, hwaiting⟩ | ⟨-, hidle⟩
  · rw [step_answer_of_waiting hwaiting]
    split
    · rename_i hgeneration
      have hrequest := List.mem_of_getElem? (getElem?_requests hwaiting)
      exact hattuned.panel.install (hattuned.command request hrequest hgeneration) _
    · exact hattuned.panel
  · rw [hidle]
    exact hattuned.panel

theorem step_gesture (hattuned : exchange.Attuned) (gesture : Gesture) :
    (exchange.step (.gesture gesture)).1.Attuned :=
  hattuned.step_of_not_typing rfl (hattuned.panel.after gesture)

theorem step (hattuned : exchange.Attuned) (step : Step η) : (exchange.step step).1.Attuned := by
  cases step with
  | type registry ask text => exact hattuned.step_type registry ask text
  | answer ticket offer => exact hattuned.step_answer ticket offer
  | gesture gesture => exact hattuned.step_gesture gesture

theorem run (hattuned : exchange.Attuned) (steps : List (Step η)) : (exchange.run steps).Attuned := by
  induction steps generalizing exchange with
  | nil => exact hattuned
  | cons step steps ih => exact ih (hattuned.step step)

end Attuned

/-! ### Moves of the highlight -/

/-- Whether entries were put in: by a change of the text or by an answer that was taken. -/
def Event.installs (event : Event η) : Bool :=
  match event.step, event.reply with
  | .type _ _ _, _ => true
  | .answer _ _, .answered (some true) => true
  | _, _ => false

/-- The events since entries were last put in, the latest first. -/
def sinceInstalled (events : List (Event η)) : List (Event η) :=
  events.reverse.takeWhile (!·.installs)

/-- Whether an event moved the highlight of a visible panel down. -/
def Event.movesDown (event : Event η) : Bool :=
  match event.step with
  | .gesture gesture => event.before.panel.visible && gesture.isDown
  | _ => false

/-- Whether an event moved the highlight of a visible panel up. -/
def Event.movesUp (event : Event η) : Bool :=
  match event.step with
  | .gesture gesture => event.before.panel.visible && gesture.isUp
  | _ => false

/-- By how many entries the highlight was moved down since entries were last put in. -/
def drift (events : List (Event η)) : Int :=
  ((sinceInstalled events).countP Event.movesDown : Int) -
    (sinceInstalled events).countP Event.movesUp

theorem drift_of_installs (events : List (Event η)) {event : Event η}
    (hinstalls : event.installs = true) : drift (events ++ [event]) = 0 := by
  have hsince : sinceInstalled (events ++ [event]) = [] := by
    rw [sinceInstalled, List.reverse_append, List.reverse_singleton, List.singleton_append,
      List.takeWhile_cons, hinstalls]
    rfl
  rw [drift, hsince]
  rfl

theorem drift_of_not_installs (events : List (Event η)) {event : Event η}
    (hinstalls : event.installs = false) :
    drift (events ++ [event]) = drift events +
      ((if event.movesDown then 1 else 0) - if event.movesUp then 1 else 0) := by
  have hsince : sinceInstalled (events ++ [event]) = event :: sinceInstalled events := by
    rw [sinceInstalled, List.reverse_append, List.reverse_singleton, List.singleton_append,
      List.takeWhile_cons, hinstalls]
    rfl
  rw [drift, hsince, List.countP_cons, List.countP_cons, drift]
  push_cast
  ring

/-- A gesture moves the highlight by as much as it counts, around the end of the list. -/
theorem emod_after_index {panel : Panel η} {moved : Int} (hne : panel.suggestions ≠ [])
    (hindex : (panel.index : Int) = moved % panel.suggestions.length) (gesture : Gesture) :
    ((panel.after gesture).index : Int) =
      (moved + ((if panel.visible && gesture.isDown then 1 else 0) -
        if panel.visible && gesture.isUp then 1 else 0)) % panel.suggestions.length := by
  have hpos := List.length_pos_iff.2 hne
  rw [Panel.after_index]
  by_cases hdown : (panel.visible && gesture.isDown) = true
  · have hup : (panel.visible && gesture.isUp) = false := by
      rw [Bool.and_eq_true] at hdown
      rw [Gesture.isUp_eq_false hdown.2, Bool.and_false]
    rw [if_pos hdown, if_pos hdown, hup, if_neg Bool.false_ne_true, Int.natCast_emod,
      Int.natCast_add, hindex, Int.emod_add_emod]
    rfl
  · rw [if_neg hdown, if_neg hdown]
    by_cases hup : (panel.visible && gesture.isUp) = true
    · have hcast : ((panel.index + panel.suggestions.length - 1 : Nat) : Int) =
          moved % panel.suggestions.length - 1 + panel.suggestions.length := by omega
      rw [if_pos hup, if_pos hup, Int.natCast_emod, hcast, Int.add_emod_right, Int.emod_sub_emod,
        zero_sub, ← sub_eq_add_neg]
    · rw [if_neg hup, if_neg hup, hindex, sub_zero, add_zero]

/-- The highlight is where the moves since entries were last put in have brought it. -/
theorem index_run (settings : PanelSettings) (steps : List (Step η)) :
    let panel := ((start settings : Exchange η).run steps).panel
    panel.suggestions ≠ [] →
      (panel.index : Int) = drift ((start settings).events steps) % panel.suggestions.length := by
  induction steps using List.reverseRecOn with
  | nil =>
      intro panel hne
      exact absurd rfl hne
  | append_singleton steps step ih =>
      dsimp only at ih ⊢
      rw [run_concat, events_concat]
      generalize (start settings : Exchange η).run steps = exchange at ih ⊢
      cases step with
      | type registry ask text =>
          intro _
          rw [drift_of_installs _ rfl, Int.zero_emod, step_type_eq]
          have hindex := Panel.update_index ask exchange.panel registry text
          generalize Id.run (exchange.panel.update (m := Id) ask registry text) = updated at hindex ⊢
          rcases updated with ⟨panel, _ | request⟩ <;> exact congrArg Int.ofNat hindex
      | answer ticket offer =>
          rcases step_answer exchange ticket offer with ⟨request, hwaiting⟩ | ⟨-, hidle⟩
          · have hstep := step_answer_of_waiting hwaiting offer
            split at hstep
            · have hinstalls : (exchange.event (.answer ticket offer)).installs = true := by
                simp only [event, Event.installs, hstep]
              intro _
              rw [drift_of_installs _ hinstalls, Int.zero_emod, hstep]
              rfl
            · have hinstalls : (exchange.event (.answer ticket offer)).installs = false := by
                simp only [event, Event.installs, hstep]
              intro hne
              rw [hstep] at hne ⊢
              rw [drift_of_not_installs _ hinstalls]
              exact (ih hne).trans (congrArg (· % _) (Int.add_zero _).symm)
          · have hinstalls : (exchange.event (.answer ticket offer)).installs = false := by
              simp only [event, Event.installs, hidle]
            intro hne
            rw [hidle] at hne ⊢
            rw [drift_of_not_installs _ hinstalls]
            exact (ih hne).trans (congrArg (· % _) (Int.add_zero _).symm)
      | gesture gesture =>
          intro hne
          have hne : exchange.panel.suggestions ≠ [] := Panel.after_suggestions _ _ ▸ hne
          rw [drift_of_not_installs _ rfl]
          exact (Panel.after_suggestions exchange.panel gesture).symm ▸
            emod_after_index hne (ih hne) gesture

/-! ### Dismissal -/

theorem dismissed_step {exchange : Exchange η} (hdismissed : exchange.panel.dismissed = true)
    {step : Step η} (hstep : step.isTyping = false) :
    (exchange.step step).1.panel.dismissed = true := by
  cases step with
  | type registry ask text => cases hstep
  | answer ticket offer =>
      rcases panel_answer exchange ticket offer with hsame | ⟨command, values, hinstalled⟩
      · rw [hsame]
        exact hdismissed
      · rw [hinstalled]
        exact hdismissed
  | gesture gesture => exact Panel.after_dismissed hdismissed gesture

theorem dismissed_run {exchange : Exchange η} (hdismissed : exchange.panel.dismissed = true)
    {steps : List (Step η)} (hsteps : ∀ step ∈ steps, step.isTyping = false) :
    (exchange.run steps).panel.dismissed = true := by
  induction steps generalizing exchange with
  | nil => exact hdismissed
  | cons step steps ih =>
      have hstep := dismissed_step hdismissed (hsteps step List.mem_cons_self)
      exact ih hstep (fun step h => hsteps step (List.mem_cons_of_mem _ h))

/-! ### All of it -/

/-- In every state that a run leads to, the panel is coherent under the settings that it was made with,
a visible one has an entry that is highlighted and can be accepted, the highlight is where the moves
since entries were last put in have brought it, and a panel that was dismissed stays hidden until the
text changes. -/
theorem panel_invariant (settings : PanelSettings) (steps : List (Step η)) :
    let fresh : Exchange η := start settings
    let panel := (fresh.run steps).panel
    panel.settings = settings ∧ panel.Coherent ∧
    (panel.visible = true → ∃ suggestion, panel.suggestions[panel.index]? = some suggestion ∧
      panel.selected? = some suggestion ∧ panel.accept?.isSome = true) ∧
    (panel.suggestions ≠ [] →
      (panel.index : Int) = drift (fresh.events steps) % panel.suggestions.length) ∧
    ∀ before gesture after, steps = before ++ .gesture gesture :: after →
      gesture = .dismiss ∨ gesture = .press .escape ∧ (fresh.run before).panel.visible = true →
      (∀ step ∈ after, step.isTyping = false) → panel.visible = false := by
  intro fresh panel
  have hattuned : (fresh.run steps).Attuned := (attuned_start settings).run steps
  refine ⟨settings_run fresh steps, hattuned.panel, ?_, index_run settings steps, ?_⟩
  · intro hvisible
    have hlt := hattuned.panel.index_lt (Panel.suggestions_ne_nil hvisible)
    have hentry : panel.suggestions[panel.index]? = some panel.suggestions[panel.index] :=
      List.getElem?_eq_getElem hlt
    have hselected : panel.selected? = some panel.suggestions[panel.index] := by
      rw [Panel.selected?, if_pos hvisible, hentry]
    refine ⟨_, hentry, hselected, ?_⟩
    rw [Panel.accept?, hselected]
    rfl
  · intro before gesture after hsteps hgesture hafter
    have hdismissed : (fresh.run (before ++ [.gesture gesture])).panel.dismissed = true := by
      rw [run_concat]
      rcases hgesture with rfl | ⟨rfl, hvisible⟩
      · rfl
      · simp only [step, Panel.after, Panel.press]
        rw [if_pos hvisible]
        rfl
    have hlater := dismissed_run hdismissed hafter
    rw [← run_append, List.append_assoc, List.singleton_append, ← hsteps] at hlater
    rw [Panel.visible, show panel.dismissed = true from hlater]
    exact Bool.and_false _

end Exchange

end Jotter
