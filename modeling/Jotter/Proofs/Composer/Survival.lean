import Jotter.Composer.Conversation
import Jotter.Proofs.Composer.Submission
import Jotter.Proofs.Console.Drawn

/-! Which conversations go on to their farewell. With the built-in commands at a desk a conversation takes
every line before the first exit word, once and in order, unless a line asks for a reminder at a time
beyond the last date or the longest time span, or the label of the notebook cannot be drawn in the
prompt. The first of these ends it, and what was in memory is gone. -/

namespace Jotter

variable {σ α : Type}

/-- The line asks for a reminder at a time that dates or time spans do not reach. -/
def Overflows (marker : String) (now : Moment) (line : String) (failure : Failure) : Prop :=
  Untimely marker now line failure ∧
    (failure = .dateOutOfRange ∨ ∃ days, failure = .durationOutOfRange days)

theorem overflows_iff {marker line : String} {now : Moment} {failure : Failure} :
    Overflows marker now line failure ↔
      Untimely marker now line failure ∧ failure.isRecoverable = false :=
  and_congr_right fun huntimely => (Failure.not_isRecoverable_iff huntimely.ofTime).symm

namespace Composer

/-- The composer with another thing printed. -/
def told (composer : Composer σ) (item : Printed) : Composer σ :=
  { composer with printed := composer.printed ++ [item] }

/-- The composer after a line; a failure is told. -/
def after (composer : Composer Desk) (line : String) : Composer Desk :=
  match (submit Desk.services line).run.run composer with
  | (.ok _, ended) => ended
  | (.error failure, ended) =>
    ended.told (.markup (MessageKind.error.render (Markup.escape failure.message)))

/-- Whether the prompt of a composer can be shown. -/
def Promptable (composer : Composer Desk) : Prop :=
  ∃ text, Conversation.promptText composer.session.context = .ok text

variable {marker line : String} {now : Moment} {label : Setting → Prop} {composer : Composer Desk}

theorem ready_after (hready : composer.Ready marker now label) (line : String) :
    (composer.after line).Ready marker now label := by
  by_cases htimely : ∀ failure, ¬ Untimely marker now line failure
  · obtain ⟨submission, ended, hrun, hended⟩ := submit_of_timely hready htimely
    rw [after, hrun]
    exact hended
  · obtain ⟨failure, huntimely⟩ := not_forall_not.1 htimely
    rw [after, submit_of_untimely hready huntimely]
    exact hready

end Composer

/-- Whether a label can be drawn in the prompt. -/
def Setting.IsDrawable (label : Setting) : Prop :=
  label.isGiven = true → ∀ c ∈ label.toText.toList, Drawn.isForbidden c = false

theorem Setting.isDrawable_null : Setting.null.IsDrawable :=
  fun hgiven => absurd hgiven (by decide)

namespace Conversation

theorem promptText_eq_ok (context : Context) :
    (∃ text, promptText context = .ok text) ↔ context.notebook.IsDrawable := by
  have hbind : ∀ came : Except Failure String,
      (∃ text, (came >>= fun drawn => pure (drawn ++ " > ")) = .ok text) ↔ ∃ drawn, came = .ok drawn := by
    intro came
    cases came with
    | error failure => exact ⟨nofun, nofun⟩
    | ok drawn => exact ⟨fun _ => ⟨drawn, rfl⟩, fun _ => ⟨_, rfl⟩⟩
  rw [promptText]
  refine (hbind _).trans ?_
  rw [Drawn.draw_eq_ok, Setting.IsDrawable]
  split
  · rename_i hgiven
    exact ⟨fun hlabel _ => hlabel, fun hlabel => hlabel hgiven⟩
  · rename_i hgiven
    have hplain : ∀ c ∈ "no notebook".toList, Drawn.isForbidden c = false :=
      fun c hc => Bool.eq_false_iff.2 (List.any_eq_false.1 (by decide) c hc)
    exact ⟨fun _ hlabel => absurd hlabel hgiven, fun _ => hplain⟩

/-! ### Steps of the loop -/

/-- While collaborators that answer at once are asked, nothing else happens. -/
theorem withWaits_run {services : Services σ} (hwaits : ∀ state, services.waits state = 0)
    (step : Attempt (Conversation σ) α) (conversation : Conversation σ) :
    (withWaits services step).run.run conversation = step.run.run conversation := by
  rw [withWaits, Attempt.run_bind, Attempt.get_run]
  dsimp only
  rw [Attempt.run_bind, Attempt.outcome_run]
  dsimp only
  generalize step.run.run conversation = ended
  obtain ⟨came, changed⟩ := ended
  rw [Attempt.run_bind, Attempt.get_run]
  dsimp only
  rw [hwaits, hwaits, if_neg (Nat.lt_irrefl 0)]
  exact Attempt.ofExcept_run came changed

theorem inComposer_run (step : Attempt (Composer σ) α) (conversation : Conversation σ) :
    (inComposer step).run.run conversation = ((step.run.run conversation.composer).1,
      { conversation with composer := (step.run.run conversation.composer).2 }) :=
  rfl

/-- A prompt at which nothing is typed. -/
theorem prompt_run (services : Services σ) (theme : Theme) (conversation : Conversation σ) :
    (prompt services theme []).run.run conversation =
      match promptText conversation.composer.session.context with
      | .ok text => (.ok (), { conversation with
          prompts := conversation.prompts ++ [⟨text, conversation.composer.buffer, []⟩] })
      | .error failure => (.error failure, conversation) := by
  rw [prompt, Attempt.run_bind, Attempt.get_run]
  dsimp only
  rw [Attempt.run_bind, Attempt.ofExcept_run]
  cases promptText conversation.composer.session.context <;> rfl

theorem submit_run {services : Services σ} (hwaits : ∀ state, services.waits state = 0) (line : String)
    (conversation : Conversation σ) :
    (submit services line).run.run conversation =
      match (Composer.submit services line).run.run conversation.composer with
      | (.ok _, composer) => (.ok (), { conversation with composer := composer })
      | (.error failure, composer) =>
        if failure.isRecoverable then
          (.ok (), ⟨composer.told (.markup (MessageKind.error.render (Markup.escape failure.message))),
            conversation.suggester, conversation.prompts⟩)
        else (.error failure, { conversation with composer := composer }) := by
  rw [submit, Attempt.run_bind, Attempt.outcome_run, withWaits_run hwaits, inComposer_run]
  dsimp only
  generalize (Composer.submit services line).run.run conversation.composer = ended
  obtain ⟨failure | submission, composer⟩ := ended
  · dsimp only
    split <;> rfl
  · rfl

variable {marker line : String} {now : Moment} {label : Setting → Prop}
  {conversation : Conversation Desk}

/-- A line that overflows ends the loop, and stays in the buffer. -/
theorem submit_of_overflows {failure : Failure} (conversation : Conversation Desk)
    (hready : conversation.composer.Ready marker now label)
    (hoverflows : Overflows marker now line failure) :
    (submit Desk.services line).run.run conversation =
      (.error failure,
        { conversation with composer := { conversation.composer with buffer := line } }) := by
  obtain ⟨huntimely, hlost⟩ := overflows_iff.1 hoverflows
  rw [submit_run fun _ => rfl, Composer.submit_of_untimely hready huntimely]
  dsimp only
  rw [hlost, if_neg Bool.false_ne_true]

/-- Any other line is survived. -/
theorem submit_of_not_overflows (conversation : Conversation Desk)
    (hready : conversation.composer.Ready marker now label)
    (hfits : ∀ failure, ¬ Overflows marker now line failure) :
    (submit Desk.services line).run.run conversation =
      (.ok (), { conversation with composer := conversation.composer.after line }) := by
  rw [submit_run fun _ => rfl]
  by_cases htimely : ∀ failure, ¬ Untimely marker now line failure
  · obtain ⟨submission, ended, hrun, -⟩ := Composer.submit_of_timely hready htimely
    rw [Composer.after, hrun]
  · obtain ⟨failure, huntimely⟩ := not_forall_not.1 htimely
    have hkept : failure.isRecoverable = true := by
      rw [← Bool.not_eq_false]
      exact fun hlost => hfits failure (overflows_iff.2 ⟨huntimely, hlost⟩)
    rw [Composer.after, Composer.submit_of_untimely hready huntimely]
    dsimp only
    rw [if_pos hkept]

/-! ### The loop -/

/-- The turns of lines that are submitted as they are. -/
def script (lines : List String) : List Turn :=
  lines.map fun line => ⟨[], .submit line⟩

/-- The lines before the first exit word. -/
def kept (lines : List String) : List String :=
  lines.takeWhile (!isExit ·)

theorem kept_cons_of_isExit {line : String} (hexit : isExit line = true) (lines : List String) :
    kept (line :: lines) = [] :=
  List.takeWhile_cons_of_neg (by simpa using hexit)

theorem kept_cons_of_not_isExit {line : String} (hexit : isExit line = false) (lines : List String) :
    kept (line :: lines) = line :: kept lines :=
  List.takeWhile_cons_of_pos (by simpa using hexit)

theorem exists_of_kept_eq_cons {lines rest : List String} {line : String}
    (hkept : kept lines = line :: rest) :
    ∃ others, lines = line :: others ∧ isExit line = false := by
  cases lines with
  | nil => cases hkept
  | cons first others =>
      cases hexit : isExit first with
      | true =>
          rw [kept_cons_of_isExit hexit] at hkept
          cases hkept
      | false =>
          rw [kept_cons_of_not_isExit hexit, List.cons.injEq] at hkept
          obtain ⟨rfl, -⟩ := hkept
          exact ⟨others, rfl, hexit⟩

/-- The conversation after a prompt at which nothing is typed. -/
def prompted (conversation : Conversation Desk) (text : String) : Conversation Desk :=
  { conversation with
    prompts := conversation.prompts ++ [⟨text, conversation.composer.buffer, []⟩] }

/-- The conversation after a prompt and the line that was submitted at it. -/
def taken (conversation : Conversation Desk) (text line : String) : Conversation Desk :=
  { conversation.prompted text with composer := conversation.composer.after line }

@[simp]
theorem composer_taken (conversation : Conversation Desk) (text line : String) :
    (conversation.taken text line).composer = conversation.composer.after line := by
  rw [taken]

theorem takeTurns_run (theme : Theme) (line : String) (lines : List String)
    (conversation : Conversation Desk) :
    (takeTurns Desk.services theme (script (line :: lines))).run.run conversation =
      match promptText conversation.composer.session.context with
      | .error failure => (.error failure, conversation)
      | .ok text =>
        if isExit line then (.ok (), conversation.prompted text)
        else
          (submit Desk.services line >>= fun _ =>
            takeTurns Desk.services theme (script lines)).run.run (conversation.prompted text) := by
  rw [script, List.map_cons, takeTurns, Attempt.run_bind, prompt_run]
  cases promptText conversation.composer.session.context with
  | error failure => rfl
  | ok text =>
      dsimp only
      split <;> rfl

section Line

variable {text : String} (theme : Theme) (lines : List String)
  (hready : conversation.composer.Ready marker now label)
  (htext : promptText conversation.composer.session.context = .ok text)
  (hexit : isExit line = false)

include hready htext hexit

theorem takeTurns_of_not_overflows (hfits : ∀ failure, ¬ Overflows marker now line failure) :
    (takeTurns Desk.services theme (script (line :: lines))).run.run conversation =
      (takeTurns Desk.services theme (script lines)).run.run (conversation.taken text line) := by
  rw [takeTurns_run, htext]
  dsimp only
  rw [hexit, if_neg Bool.false_ne_true, Attempt.run_bind,
    submit_of_not_overflows (conversation.prompted text) hready hfits]
  rfl

theorem takeTurns_of_overflows {failure : Failure}
    (hoverflows : Overflows marker now line failure) :
    (takeTurns Desk.services theme (script (line :: lines))).run.run conversation =
      (.error failure, { conversation.prompted text with
        composer := { conversation.composer with buffer := line } }) := by
  rw [takeTurns_run, htext]
  dsimp only
  rw [hexit, if_neg Bool.false_ne_true, Attempt.run_bind,
    submit_of_overflows (conversation.prompted text) hready hoverflows]
  rfl

end Line

/-- Whether nothing is in the way of some lines: none of them overflows, and the prompts before and after
each of them can be shown. -/
def Clear (marker : String) (now : Moment) (lines : List String) (composer : Composer Desk) : Prop :=
  (∀ line ∈ lines, ∀ failure, ¬ Overflows marker now line failure) ∧
    ∀ stop ∈ lines.scanl Composer.after composer, stop.Promptable

theorem clear_nil {composer : Composer Desk} :
    Clear marker now [] composer ↔ composer.Promptable := by
  simp [Clear]

theorem clear_cons {lines : List String} {composer : Composer Desk} :
    Clear marker now (line :: lines) composer ↔
      composer.Promptable ∧ (∀ failure, ¬ Overflows marker now line failure) ∧
        Clear marker now lines (composer.after line) := by
  simp only [Clear, List.scanl_cons, List.forall_mem_cons]
  tauto

/-- A loop with nothing in the way takes every line up to the exit, in order, and then ends. -/
theorem takeTurns_of_clear (theme : Theme) {lines : List String} {conversation : Conversation Desk}
    (hready : conversation.composer.Ready marker now label)
    (hclear : Clear marker now (kept lines) conversation.composer) :
    ∃ ended, (takeTurns Desk.services theme (script lines)).run.run conversation = (.ok (), ended) ∧
      ended.composer = (kept lines).foldl Composer.after conversation.composer ∧
      ended.prompts.map (·.initial) = conversation.prompts.map (·.initial) ++
        ((kept lines).scanl Composer.after conversation.composer).map (·.buffer) := by
  -- a line leaves the composer ready whatever it came to, so the next one meets the same case
  induction lines generalizing conversation with
  | nil =>
      obtain ⟨text, htext⟩ := clear_nil.1 hclear
      refine ⟨conversation.prompted text, ?_, rfl, by simp [prompted, kept]⟩
      rw [script, List.map_nil, takeTurns, prompt_run, htext]
      rfl
  | cons line lines ih =>
      cases hexit : isExit line with
      | true =>
          rw [kept_cons_of_isExit hexit] at hclear ⊢
          obtain ⟨text, htext⟩ := clear_nil.1 hclear
          refine ⟨conversation.prompted text, ?_, rfl, by simp [prompted]⟩
          rw [takeTurns_run, htext, hexit]
          rfl
      | false =>
          rw [kept_cons_of_not_isExit hexit] at hclear ⊢
          obtain ⟨⟨text, htext⟩, hfits, hrest⟩ := clear_cons.1 hclear
          have hnext := Composer.ready_after hready line
          rw [← composer_taken conversation text] at hnext hrest
          obtain ⟨ended, hrun, hcomposer, hprompts⟩ := ih hnext hrest
          refine ⟨ended, ?_, ?_, ?_⟩
          · rw [takeTurns_of_not_overflows theme lines hready htext hexit hfits]
            exact hrun
          · rw [hcomposer, composer_taken, List.foldl_cons]
          · rw [hprompts, composer_taken]
            simp [taken, prompted, List.scanl_cons]

theorem clear_of_takeTurns (theme : Theme) {lines : List String} {conversation : Conversation Desk}
    (hready : conversation.composer.Ready marker now label)
    (hrun : ((takeTurns Desk.services theme (script lines)).run.run conversation).1 = .ok ()) :
    Clear marker now (kept lines) conversation.composer := by
  induction lines generalizing conversation with
  | nil =>
      rw [script, List.map_nil, takeTurns, prompt_run] at hrun
      cases htext : promptText conversation.composer.session.context with
      | error failure => rw [htext] at hrun; cases hrun
      | ok text => exact clear_nil.2 ⟨text, htext⟩
  | cons line lines ih =>
      cases htext : promptText conversation.composer.session.context with
      | error failure => rw [takeTurns_run, htext] at hrun; cases hrun
      | ok text =>
          cases hexit : isExit line with
          | true =>
              rw [kept_cons_of_isExit hexit]
              exact clear_nil.2 ⟨text, htext⟩
          | false =>
              rw [kept_cons_of_not_isExit hexit]
              by_cases hfits : ∀ failure, ¬ Overflows marker now line failure
              · have hnext := Composer.ready_after hready line
                rw [← composer_taken conversation text] at hnext
                rw [takeTurns_of_not_overflows theme lines hready htext hexit hfits] at hrun
                have hrest := ih hnext hrun
                rw [composer_taken] at hrest
                exact clear_cons.2 ⟨⟨text, htext⟩, hfits, hrest⟩
              · -- the loop would have ended with the failure of this line
                obtain ⟨failure, hoverflows⟩ := not_forall_not.1 hfits
                rw [takeTurns_of_overflows theme lines hready htext hexit hoverflows] at hrun
                cases hrun

/-- The first line that overflows ends the loop with its failure; no line after it is taken. -/
theorem takeTurns_of_first_overflow (theme : Theme) {lines before rest : List String}
    {failure : Failure} {conversation : Conversation Desk}
    (hready : conversation.composer.Ready marker now label)
    (hkept : kept lines = before ++ line :: rest)
    (hclear : Clear marker now before conversation.composer)
    (hoverflows : Overflows marker now line failure) :
    ∃ ended, (takeTurns Desk.services theme (script lines)).run.run conversation =
        (.error failure, ended) ∧
      ended.composer = { before.foldl Composer.after conversation.composer with buffer := line } := by
  -- on the lines before it, each of which is survived
  induction before generalizing lines conversation with
  | nil =>
      obtain ⟨text, htext⟩ := clear_nil.1 hclear
      obtain ⟨lines, rfl, hexit⟩ := exists_of_kept_eq_cons hkept
      exact ⟨_, takeTurns_of_overflows theme lines hready htext hexit hoverflows, rfl⟩
  | cons first before ih =>
      obtain ⟨⟨text, htext⟩, hfits, hrest⟩ := clear_cons.1 hclear
      obtain ⟨lines, rfl, hexit⟩ := exists_of_kept_eq_cons hkept
      have hnext := Composer.ready_after hready first
      rw [← composer_taken conversation text] at hnext hrest
      rw [kept_cons_of_not_isExit hexit, List.cons_append, List.cons.injEq] at hkept
      obtain ⟨ended, hrun, hcomposer⟩ := ih hnext hkept.2 hrest
      refine ⟨ended, ?_, ?_⟩
      · rw [takeTurns_of_not_overflows theme lines hready htext hexit hfits]
        exact hrun
      · rw [hcomposer, composer_taken, List.foldl_cons]

/-! ### Whole conversations -/

theorem run_run (theme : Theme) (turns : List Turn) (settings : PanelSettings)
    (composer : Composer Desk) :
    (run Desk.services theme turns).run.run (start settings composer) =
      match (takeTurns Desk.services theme turns).run.run
          (start settings (composer.told (.markup (greeting settings.marker)))) with
      | (.ok (), ended) =>
        (.ok (), { ended with composer := ended.composer.told (.markup farewell) })
      | (.error failure, ended) => (.error failure, ended) := by
  have hgreeted : (run Desk.services theme turns).run.run (start settings composer) =
      (takeTurns Desk.services theme turns >>= fun _ =>
        inComposer (Composer.print (.markup farewell))).run.run
        (start settings (composer.told (.markup (greeting settings.marker)))) := rfl
  rw [hgreeted, Attempt.run_bind]
  generalize (takeTurns Desk.services theme turns).run.run
    (start settings (composer.told (.markup (greeting settings.marker)))) = ended
  obtain ⟨failure | _, ended⟩ := ended <;> rfl

theorem promptable_of_mem_scanl {composer : Composer Desk} {lines : List String}
    (hready : composer.Ready marker now Setting.IsDrawable) :
    ∀ stop ∈ lines.scanl Composer.after composer, stop.Promptable := by
  induction lines generalizing composer with
  | nil =>
      rw [List.scanl_nil, List.forall_mem_singleton]
      exact (promptText_eq_ok _).2 hready.context_label
  | cons line lines ih =>
      rw [List.scanl_cons, List.forall_mem_cons]
      exact ⟨(promptText_eq_ok _).2 hready.context_label, ih (Composer.ready_after hready line)⟩

/-- A conversation ends with its farewell iff no line before the exit overflows and every prompt can be
shown; then each of these lines was taken once and in order, and the prompts began with what the lines
before them left in the buffer. The first line that overflows ends it, and no line after it is taken.
If the labels of the notebooks can be drawn, so can every prompt. -/
theorem farewell_iff_clear (marker : String) (vault : Vault) (now : Moment) (history : History)
    (context : Context) (buffer : String) (printed : List Printed) (settings : PanelSettings)
    (theme : Theme) (lines : List String) :
    let session : Session Desk :=
      ⟨Builtin.registry Desk.services marker, history, marker, context, ⟨vault, now⟩⟩
    let composer : Composer Desk := ⟨session, buffer, printed⟩
    let greeted := composer.told (.markup (greeting settings.marker))
    let came := (run Desk.services theme (script lines)).run.run (start settings composer)
    (came.1 = .ok () ↔ Clear marker now (kept lines) greeted) ∧
    (came.1 = .ok () →
      came.2.composer = ((kept lines).foldl Composer.after greeted).told (.markup farewell) ∧
      came.2.prompts.map (·.initial) =
        ((kept lines).scanl Composer.after greeted).map (·.buffer)) ∧
    (∀ before line rest failure, kept lines = before ++ line :: rest →
      Clear marker now before greeted → Overflows marker now line failure →
        came.1 = .error failure ∧
        came.2.composer = { before.foldl Composer.after greeted with buffer := line }) ∧
    (context.notebook.IsDrawable → (∀ notebook ∈ vault.notebooks, notebook.id.IsDrawable) →
      (Clear marker now (kept lines) greeted ↔
        ∀ line ∈ kept lines, ∀ failure, ¬ Overflows marker now line failure)) := by
  intro session composer greeted came
  have hready : (start settings greeted).composer.Ready marker now fun _ => True :=
    Furnished.new history trivial fun _ _ => trivial
  have hrun := run_run theme (script lines) settings composer
  have hblocked : came.1 = .ok () → Clear marker now (kept lines) greeted := by
    intro hok
    apply clear_of_takeTurns theme hready
    rw [show came = _ from hrun] at hok
    generalize (takeTurns Desk.services theme (script lines)).run.run (start settings greeted) = ended
      at hok ⊢
    obtain ⟨failure | _, ended⟩ := ended
    · exact hok
    · rfl
  refine ⟨⟨hblocked, ?_⟩, ?_, ?_, ?_⟩
  · intro hclear
    obtain ⟨ended, hturns, -, -⟩ := takeTurns_of_clear theme hready hclear
    rw [hturns] at hrun
    exact congrArg Prod.fst hrun
  · intro hok
    obtain ⟨ended, hturns, hcomposer, hprompts⟩ :=
      takeTurns_of_clear theme hready (hblocked hok)
    rw [hturns] at hrun
    rw [show came = _ from hrun]
    exact ⟨congrArg (·.told (.markup farewell)) hcomposer, hprompts⟩
  · intro before line rest failure hkept hclear hoverflows
    obtain ⟨ended, hturns, hcomposer⟩ :=
      takeTurns_of_first_overflow theme hready hkept hclear hoverflows
    rw [hturns] at hrun
    rw [show came = _ from hrun]
    exact ⟨rfl, hcomposer⟩
  · intro hcontext hvault
    have hdrawable : greeted.Ready marker now Setting.IsDrawable :=
      Furnished.new history hcontext hvault
    exact and_iff_left (promptable_of_mem_scanl hdrawable)

/-- A composer with the built-in commands at a desk without notebooks, at the beginning of 2024. -/
def freshComposer : Composer Desk where
  session :=
    { registry := Builtin.registry Desk.services "/"
      history := ⟨50, [], 1⟩
      marker := "/"
      context := {}
      state := ⟨{}, ⟨63839664000000000, some 0, by decide⟩⟩ }

/-- A line that asks for no reminder is survived. -/
theorem farewell_after_ping :
    let came := (run Desk.services .standard (script ["/ping", "bye", "/ping"])).run.run
      (start {} freshComposer)
    Clear "/" freshComposer.session.state.now ["/ping"] (freshComposer.told (.markup (greeting "/"))) ∧
      came.1 = .ok () := by
  have hkept : kept ["/ping", "bye", "/ping"] = ["/ping"] := by decide
  have hname : Registry.normalize (Line.parse "/ping" "/").name defaultMarker ∉
      (Builtin.reminder Desk.services "/").names := by decide
  have hfits : ∀ line ∈ ["/ping"], ∀ failure,
      ¬ Overflows "/" freshComposer.session.state.now line failure := by
    rw [List.forall_mem_singleton]
    exact fun failure hoverflows => hname hoverflows.1.isReminder
  obtain ⟨hfarewell, -, -, hdrawable⟩ := farewell_iff_clear "/" {} freshComposer.session.state.now
    ⟨50, [], 1⟩ {} "" [] {} .standard ["/ping", "bye", "/ping"]
  rw [hkept] at hfarewell hdrawable
  have hclear := (hdrawable Setting.isDrawable_null fun _ hmem => absurd hmem List.not_mem_nil).2 hfits
  exact ⟨hclear, hfarewell.2 hclear⟩

/-- A reminder in 999999999 days ends the conversation: the line after it is not taken, and there is no
farewell. -/
theorem overflow_before_farewell :
    let came := (run Desk.services .standard (script ["/reminder 999999999d x", "/ping"])).run.run
      (start {} freshComposer)
    came.1 = .error .dateOutOfRange ∧
      came.2.composer = { freshComposer.told (.markup (greeting "/")) with
        buffer := "/reminder 999999999d x" } := by
  have hdistance : readDistance "999999999d" = .ok (some 86399999913600) := rfl
  have hread : TimeExpression.read "999999999d" = .ok (some (.distance 86399999913600)) := by
    rw [TimeExpression.read, hdistance]
    rfl
  have hpast : (calendarSpan : Int) ≤
      freshComposer.session.state.now.wall + (86399999913600 : Nat) * 1000000 := by decide
  have hdue : dueTime "999999999d" freshComposer.session.state.now = .error .dateOutOfRange := by
    rw [dueTime_of_read hread, TimeExpression.resolve, Moment.addSeconds,
      shift_of_calendarSpan_le hpast, Except.map]
  have hoverflows : Overflows "/" freshComposer.session.state.now "/reminder 999999999d x"
      .dateOutOfRange :=
    ⟨⟨by decide, by decide, "999999999d", "x", [], by decide, hdue⟩, .inl rfl⟩
  let greeted : Conversation Desk :=
    start {} (freshComposer.told (.markup (greeting ({} : PanelSettings).marker)))
  have hready : greeted.composer.Ready "/" freshComposer.session.state.now Setting.IsDrawable :=
    Furnished.new _ Setting.isDrawable_null fun _ hmem => absurd hmem List.not_mem_nil
  obtain ⟨text, htext⟩ := (promptText_eq_ok _).2 hready.context_label
  have hturns := takeTurns_of_overflows .standard ["/ping"] hready htext (by decide) hoverflows
  have hrun := run_run .standard (script ["/reminder 999999999d x", "/ping"]) {} freshComposer
  rw [show start {} _ = greeted from rfl, hturns] at hrun
  intro came
  rw [show came = _ from hrun]
  exact ⟨rfl, rfl⟩

end Conversation

end Jotter
