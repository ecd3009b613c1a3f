import Jotter.Proofs.Builtin.Desk
import Jotter.Proofs.Calendar.Epoch
import Jotter.Proofs.Schedule.Overflow
import Jotter.Proofs.Text.Case

/-! Handlers behind their checks. At a desk whose notebooks have texts for names and whose clock has a zone,
a built-in command whose check has said yes comes to a result, so that no line can make a handler fail. The
argument that a handler asks for is there, the template and the notebook that it looks up are the ones that
were found before, and a due time that was worked out can be stored and told. -/

namespace Jotter

variable {σ : Type}

/-- The check of a command says yes in a scene, or there is none; `after` is the scene behind it. -/
inductive Hooks.Admits (hooks : Hooks σ) (args : List String) (before : Scene σ) : Scene σ → Prop where
  | unchecked (hnone : hooks.validate = none) : Admits hooks args before before
  | valid {check : List String → Action σ Verdict} {after : Scene σ}
      (hcheck : hooks.validate = some check)
      (hvalid : (check args).run.run before = (.ok .valid, after)) : Admits hooks args before after

namespace Builtin

/-- A check changes nothing. -/
theorem check_keeps {services : Services σ} {marker : String} {command : Command (Hooks σ)}
    (hcommand : command ∈ all services marker) {check : List String → Action σ Verdict}
    (hcheck : command.hooks.validate = some check) (args : List String) (scene : Scene σ) :
    ((check args).run.run scene).2 = scene := by
  rcases validate_cases hcommand with hnone | ⟨verdict, hverdict⟩ | rfl
  · cases hnone.symm.trans hcheck
  · cases hverdict.symm.trans hcheck
    rfl
  · obtain ⟨own, hown, hrun⟩ := reminder_check services marker
    cases hown.symm.trans hcheck
    rw [hrun]

/-! ### What a check makes sure of -/

/-- A template that was found is found again. -/
theorem templateResult_eq_ok {wanted : String} {rest : List String}
    (hvalid : templateVerdict (wanted :: rest) = .valid) (now : Moment) (title : List String) :
    ∃ result, templateResult now wanted title = .ok result := by
  rw [templateVerdict] at hvalid
  cases hfound : Template.find? (Text.lower wanted) with
  | none =>
      rw [hfound] at hvalid
      cases hvalid
  | some template =>
      have hrender : ∀ title, Template.renderNamed (Text.lower wanted) now title =
          .ok (template.render now title) := by
        intro title
        rw [Template.renderNamed, Text.lower_lower, hfound]
      rw [templateResult, hrender]
      exact ⟨_, rfl⟩

/-- The arguments of a reminder that may be set. -/
theorem reminderVerdict_eq_valid {marker : String} {now : Moment} {args : List String}
    (hvalid : reminderVerdict marker now args = .ok .valid) :
    ∃ time words due, args = time :: words ∧ dueTime time now = .ok (some due) := by
  match args with
  | [] => cases hvalid
  | [_] => cases hvalid
  | time :: message :: rest =>
      obtain ⟨due?, hdue, hverdict⟩ := exists_of_bind_eq_ok hvalid
      cases due? with
      | none => cases hverdict
      | some due => exact ⟨time, message :: rest, due, rfl, hdue⟩

/-- On a clock with a zone every moment is some milliseconds from the beginning of 1970. -/
theorem epochMillis_eq_ok {m : Moment} (hzone : m.offset ≠ none) :
    ∃ millis, m.epochMillis = .ok millis := by
  obtain ⟨zone, hoffset⟩ := Option.ne_none_iff_exists'.1 hzone
  exact ⟨_, Moment.epochMillis_eq hoffset⟩

theorem timestampResult_eq_ok {now utc : Moment} (hutc : now.toUtc = .ok utc) (args : List String) :
    ∃ result, timestampResult now args = .ok result := by
  rw [timestampResult]
  cases TimestampStyle.ofName (args.headD "short") with
  | iso =>
      rw [TimestampStyle.render, hutc]
      exact ⟨_, rfl⟩
  | _ => exact ⟨_, rfl⟩

/-! ### Handlers -/

/-- A desk at which no handler has a reason to fail: the notebooks have texts for names, and the clock has
a zone and can be told at UTC. -/
structure Sound (desk : Desk) : Prop where
  names : ∃ names : List String, desk.vault.notebooks = names.map .named
  zone : desk.now.offset ≠ none
  utc : ∃ utc, desk.now.toUtc = .ok utc

variable {marker : String} {args : List String} {before after : Scene Desk}

/-- What a check that looks at the arguments has said. -/
theorem verdict_of_admits {hooks : Hooks σ} {verdict : List String → Verdict}
    (hcheck : hooks.validate = some fun args => pure (verdict args)) {before after : Scene σ}
    (hadmits : hooks.Admits args before after) : verdict args = .valid := by
  cases hadmits with
  | unchecked hnone => cases hnone.symm.trans hcheck
  | valid hown hvalid =>
      cases hown.symm.trans hcheck
      exact Except.ok.inj (congrArg Prod.fst hvalid)

/-- What the check of a reminder has said. -/
theorem reminderVerdict_of_admits {services : Services σ} {before after : Scene σ}
    (hadmits : (reminder services marker).hooks.Admits args before after) :
    reminderVerdict marker (services.clock before.state) args = .ok .valid := by
  obtain ⟨own, hown, hrun⟩ := reminder_check services marker
  cases hadmits with
  | unchecked hnone => cases hnone.symm.trans hown
  | valid hcheck hvalid =>
      cases hown.symm.trans hcheck
      rw [hrun] at hvalid
      exact congrArg Prod.fst hvalid

theorem execute_template {scene : Scene Desk} (hvalid : templateVerdict args = .valid) :
    ∃ result, ((template Desk.services marker).hooks.execute args).run.run scene =
      (.ok result, scene) := by
  cases args with
  | nil => cases hvalid
  | cons wanted rest =>
      obtain ⟨result, hresult⟩ := templateResult_eq_ok hvalid scene.state.now rest
      have hwanted : (firstArgument (wanted :: rest) : Action Desk String).run.run scene =
          (.ok wanted, scene) := rfl
      refine ⟨result, ?_⟩
      rw [template]
      dsimp only
      rw [Attempt.run_bind, hwanted]
      dsimp only
      rw [Attempt.run_bind, Attempt.get_run]
      dsimp only
      rw [Attempt.ofExcept_run]
      exact congrArg (·, scene) hresult

theorem execute_reminder {scene : Scene Desk} (hzone : scene.state.now.offset ≠ none)
    (hvalid : reminderVerdict marker scene.state.now args = .ok .valid) :
    ∃ result ended, (setReminder Desk.services args).run.run scene = (.ok result, ended) := by
  obtain ⟨time, words, due, rfl, hdue⟩ := reminderVerdict_eq_valid hvalid
  have hfollows := follows_of_dueTime hdue
  obtain ⟨dueAt, hat⟩ := epochMillis_eq_ok (hfollows.offset_eq ▸ hzone)
  obtain ⟨told, htold⟩ := dueText_of_follows hfollows
  exact ⟨_, _, setReminder_run hdue hat htold words⟩

theorem execute_notebook {scene : Scene Desk} {names : List String}
    (hnames : scene.state.vault.notebooks = names.map .named) (args : List String) :
    ∃ result ended, (switchNotebook Desk.services args).run.run scene = (.ok result, ended) := by
  rw [switchNotebook_run hnames]
  cases names.find? fun name => Text.lower name == Text.lower (" ".intercalate args) with
  | none => exact ⟨_, _, rfl⟩
  | some name => exact ⟨_, _, rfl⟩

theorem execute_timestamp {scene : Scene Desk} {utc : Moment} (hutc : scene.state.now.toUtc = .ok utc)
    (args : List String) :
    ∃ result, ((timestamp Desk.services marker).hooks.execute args).run.run scene =
      (.ok result, scene) := by
  obtain ⟨result, hresult⟩ := timestampResult_eq_ok hutc args
  refine ⟨result, ?_⟩
  rw [timestamp]
  dsimp only
  rw [Attempt.run_bind, Attempt.get_run]
  dsimp only
  rw [Attempt.ofExcept_run]
  exact congrArg (·, scene) hresult

/-- A handler whose check has said yes, or which has none, comes to a result. -/
theorem execute_of_admits {command : Command (Hooks Desk)}
    (hcommand : command ∈ all Desk.services marker) (hdesk : Sound before.state)
    (hadmits : command.hooks.Admits args before after) :
    ∃ result ended, (command.hooks.execute args).run.run after = (.ok result, ended) := by
  obtain rfl : after = before := by
    cases hadmits with
    | unchecked => rfl
    | valid hcheck hvalid =>
        have hkeeps := check_keeps hcommand hcheck args before
        rwa [hvalid] at hkeeps
  obtain ⟨⟨names, hnames⟩, hzone, utc, hutc⟩ := hdesk
  simp only [all, List.mem_cons, List.not_mem_nil, or_false] at hcommand
  rcases hcommand with rfl | rfl | rfl | rfl | rfl | rfl | rfl | rfl | rfl
  · exact ⟨_, _, rfl⟩
  · exact ⟨_, _, rfl⟩
  · obtain ⟨result, hresult⟩ := execute_timestamp hutc args
    exact ⟨result, _, hresult⟩
  · have hverdict := reminderVerdict_of_admits hadmits
    exact execute_reminder hzone hverdict
  · exact ⟨_, _, rfl⟩
  · obtain ⟨result, hresult⟩ := execute_template (verdict_of_admits rfl hadmits)
    exact ⟨result, _, hresult⟩
  · exact ⟨_, _, rfl⟩
  · exact execute_notebook hnames args
  · exact ⟨_, _, searchNotes_run args after⟩

end Builtin

/-! ### Lines -/

namespace Session

variable {session : Session Desk} {marker : String} {args : List String}

/-- A check that says yes in a session leaves it as it is. -/
theorem admits_of_validate {command : Command (Hooks Desk)}
    (hcommand : command ∈ Builtin.all Desk.services marker) {after : Session Desk}
    (hvalid : (validate command args).run.run session = (.ok .valid, after)) :
    after = session ∧ command.hooks.Admits args session.scene session.scene := by
  cases hcheck : command.hooks.validate with
  | none =>
      rw [validate_of_none hcheck] at hvalid
      exact ⟨(congrArg Prod.snd hvalid).symm, .unchecked hcheck⟩
  | some check =>
      have hkeeps := Builtin.check_keeps hcommand hcheck args session.scene
      rw [validate_of_some hcheck, run_run, hkeeps] at hvalid
      obtain ⟨hverdict, hafter⟩ := Prod.mk.inj hvalid
      exact ⟨hafter.symm, .valid hcheck (Prod.ext hverdict hkeeps)⟩

/-- No check of a built-in command fails as a handler does. -/
theorem validate_ne_execution {command : Command (Hooks Desk)}
    (hcommand : command ∈ Builtin.all Desk.services marker) {failure : Failure} {after : Session Desk}
    (hfailed : (validate command args).run.run session = (.error failure, after)) (name : String)
    (words : List String) (cause : Failure) : failure ≠ .execution name words cause := by
  rcases validate_builtin hcommand args session with ⟨verdict, hverdict⟩ | rfl
  · cases hverdict.symm.trans hfailed
  · rw [validate_reminder] at hfailed
    obtain ⟨time, message, rest, -, hdue⟩ :=
      (Builtin.reminderVerdict_eq_error marker).1 (congrArg Prod.fst hfailed)
    have htime := ofTime_dueTime _ _ failure hdue
    rintro rfl
    cases htime

/-- No line makes a handler fail. -/
theorem execute_ne_execution (hregistry : session.registry = Builtin.registry Desk.services marker)
    (hdesk : Builtin.Sound session.state) (raw name : String) (words : List String) (cause : Failure) :
    ((execute raw).run.run session).1 ≠ .error (.execution name words cause) := by
  rw [execute_run, hregistry]
  split
  · exact nofun
  cases hresolve : (Builtin.registry Desk.services marker).resolve? (Line.parse raw session.marker).name
      defaultMarker with
  | none => exact nofun
  | some command =>
      have hmem := Builtin.mem_all_of_resolve? hresolve
      dsimp only
      rcases hcheck : (validate command (Line.parse raw session.marker).args).run.run session with
        ⟨failure | verdict, after⟩
      · dsimp only
        intro hfailed
        exact validate_ne_execution hmem hcheck name words cause (Except.error.inj hfailed)
      · cases verdict with
        | invalid reason => exact nofun
        | valid =>
            obtain ⟨rfl, hadmits⟩ := admits_of_validate hmem hcheck
            obtain ⟨result, ended, hresult⟩ := Builtin.execute_of_admits hmem hdesk hadmits
            dsimp only
            rw [runHandler_run, run_run, hresult]
            exact nofun

end Session

namespace Builtin

/-- In a vault that was furnished with texts for names, and with a clock that has a zone and can be told at
UTC, every built-in command whose check has said yes comes to a result; so no line that is run in a session
of these commands makes a handler fail. -/
theorem validated_handlers_succeed {changes : List Vault.Change}
    (hlabels : ∀ label, .notebook label ∈ changes → ∃ name, label = .text name) {now : Moment}
    (hzone : now.offset ≠ none) (hutc : ∃ utc, now.toUtc = .ok utc) :
    let desk : Desk := ⟨({} : Vault).run changes, now⟩
    (∀ marker, ∀ command ∈ all Desk.services marker, ∀ args context listing after,
      command.hooks.Admits args ⟨context, listing, desk⟩ after →
        ∃ result ended, (command.hooks.execute args).run.run after = (.ok result, ended)) ∧
    ∀ marker (session : Session Desk), session.registry = registry Desk.services marker →
      session.state = desk → ∀ raw name words cause,
        ((Session.execute raw).run.run session).1 ≠ .error (.execution name words cause) := by
  intro desk
  have hsound : Sound desk := by
    have hnew : ({} : Vault).notebooks = ([] : List String).map .named := rfl
    obtain ⟨names, hnames⟩ := Vault.notebooks_run hnew hlabels
    exact ⟨⟨_, hnames⟩, hzone, hutc⟩
  refine ⟨fun marker command hcommand args context listing after hadmits => ?_,
    fun marker session hregistry hstate raw name words cause => ?_⟩
  · exact execute_of_admits hcommand hsound hadmits
  · exact Session.execute_ne_execution hregistry (hstate ▸ hsound) raw name words cause

/-- The last moment of the calendar. -/
def lastMoment : Moment :=
  ⟨315537897599999999, some 0, by decide⟩

/-- A reminder for at once in the last moment of the calendar, from where no day leads on. -/
theorem reminder_in_last_moment :
    let changes : List Vault.Change := [.notebook (.text "Inbox"), .activate (.text "Inbox")]
    let scene : Scene Desk := ⟨{}, ⟨[]⟩, ⟨({} : Vault).run changes, lastMoment⟩⟩
    (∀ label, .notebook label ∈ changes → ∃ name, label = .text name) ∧
      lastMoment.offset ≠ none ∧ (∃ utc, lastMoment.toUtc = .ok utc) ∧
      lastMoment.addDays 1 = .error .dateOutOfRange ∧
      (reminder Desk.services "/").hooks.Admits ["0s", "end"] scene scene ∧
      ∃ result ended, (setReminder Desk.services ["0s", "end"]).run.run scene = (.ok result, ended) := by
  intro changes scene
  have hlabels : ∀ label, .notebook label ∈ changes → ∃ name, label = .text name := by
    intro label hlabel
    rcases List.mem_cons.1 hlabel with ⟨⟨⟩⟩ | hother
    · exact ⟨"Inbox", rfl⟩
    · cases List.mem_singleton.1 hother
  have hzone : lastMoment.offset ≠ none := nofun
  have hutc : ∃ utc, lastMoment.toUtc = .ok utc := ⟨lastMoment, by decide⟩
  have hadmits : (reminder Desk.services "/").hooks.Admits ["0s", "end"] scene scene := by
    obtain ⟨own, hown, hrun⟩ := reminder_check Desk.services "/"
    have hverdict : reminderVerdict "/" lastMoment ["0s", "end"] = .ok .valid := by decide +kernel
    exact .valid hown ((hrun _ _).trans (congrArg (·, scene) hverdict))
  refine ⟨hlabels, hzone, hutc, by decide, hadmits, ?_⟩
  exact (validated_handlers_succeed hlabels hzone hutc).1 "/" (reminder Desk.services "/")
    (by simp [all]) _ _ _ _ hadmits

end Builtin

end Jotter
