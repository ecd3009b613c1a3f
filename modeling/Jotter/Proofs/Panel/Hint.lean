import Jotter.Builtin.Set
import Jotter.Proofs.Line.Continued
import Jotter.Proofs.Panel.Acceptance

/-! The hint for the argument that is being typed. A panel counts the entries behind the name, which white
space parts, while a line that is run is cut into tokens. So the hint is the place of the argument to which
the next letter belongs as long as each entry before the last is a token of its own; otherwise it is a later
place. -/

namespace Jotter

variable {η : Type}

namespace Exchange

/-! ### The command of a panel -/

/-- What a panel is about after a change of the text was decided by that text. -/
theorem panel_step_type (exchange : Exchange η) (registry : Registry η)
    (ask : Command η → List String → Answer) (text : String) :
    let panel := (exchange.step (.type registry ask text)).1.panel
    panel.mode = (exchange.panel.focus registry text).mode ∧
      panel.command? = (exchange.panel.focus registry text).command? ∧ panel.text = text := by
  have htext := (Panel.renewed_focus exchange.panel registry text).text_eq
  have hcases := Panel.update_cases ask exchange.panel registry text
  rw [step_type_eq]
  generalize Id.run (exchange.panel.update (m := Id) ask registry text) = updated at hcases
  rcases hcases with rfl | ⟨request, -, ⟨values, rfl⟩ | rfl⟩
  · exact ⟨rfl, rfl, htext⟩
  · exact ⟨rfl, rfl, htext⟩
  · exact ⟨rfl, rfl, htext⟩

/-- In every state that a run leads to, the command that the panel is about is named in its text, and an
argument is being typed. -/
theorem arguments_of_command?_run (settings : PanelSettings) (steps : List (Step η)) {command : Command η}
    (hcommand : ((start settings).run steps).panel.command? = some command) :
    ∃ name args, Draft.read ((start settings).run steps).panel.text settings.marker = .arguments name args ∧
      name ≠ "" := by
  induction steps using List.reverseRecOn with
  | nil => cases hcommand
  | append_singleton steps step ih =>
      rw [run_concat] at hcommand ⊢
      cases hstep : step.isTyping with
      | false =>
          rw [command?_step hstep] at hcommand
          rw [text_step hstep]
          exact ih hcommand
      | true =>
          cases step with
          | type registry ask text =>
              obtain ⟨-, hfocus, htext⟩ := panel_step_type ((start settings).run steps) registry ask text
              rw [hfocus] at hcommand
              obtain ⟨name, args, hdraft, hname, -⟩ := Panel.arguments_of_command?_focus hcommand
              rw [settings_run] at hdraft
              exact ⟨name, args, by rw [htext]; exact hdraft, hname⟩
          | answer ticket offer => cases hstep
          | gesture gesture => cases hstep

/-! ### The hint -/

/-- In every state that a run leads to, where a panel is about an argument of a command, its hint is the
place in the usage line that comes after as many others as there are entries between the name and the last
one. When the line goes on with a letter and is run, the letter belongs to the argument of this place or of
one before it, or to the name; it belongs to the argument of this place iff the name and all entries but the
last are tokens of their own, and it does if there is no quotation mark in the text. -/
theorem hint_counts_entries {settings : PanelSettings}
    (hmarker : Configuration.isMarker settings.marker = true) (steps : List (Step η)) :
    let panel := ((start settings).run steps).panel
    ∀ command, panel.mode = .arguments → panel.command? = some command →
      ∃ entries place, Line.draftFields? panel.text settings.marker = some entries ∧
        entries.length = place + 2 ∧ panel.hint? = command.placeholders[place]? ∧
        let args := (Line.parse (panel.text ++ "x") settings.marker).args
        args.length ≤ place + 1 ∧
        (args.length = place + 1 ↔ ∀ entry ∈ entries.dropLast, Line.IsWhole entry.toList) ∧
        ((∀ c ∈ panel.text.toList, Line.isQuote c = false) → args.length = place + 1) := by
  intro panel command hmode hcommand
  obtain ⟨name, args, hdraft, hname⟩ := arguments_of_command?_run settings steps hcommand
  obtain ⟨hfields, hargs⟩ := Line.draftFields?_of_arguments hdraft
  obtain ⟨hle, hiff⟩ := Line.length_args_letter hmarker hdraft hname
  have hplace : args.length = args.length - 1 + 1 := by
    have hpositive := List.length_pos_iff.2 hargs
    omega
  have hsettings : panel.settings = settings := settings_run (start settings) steps
  refine ⟨name :: args, args.length - 1, hfields, ?_, ?_, ?_, ?_, ?_⟩
  · rw [List.length_cons]
    omega
  · rw [Panel.hint?, hmode, hcommand, hsettings, hdraft]
  · rw [← hplace]
    exact hle
  · rw [← hplace, List.dropLast_cons_of_ne_nil hargs]
    exact hiff
  · intro hquote
    rw [← hplace, hiff]
    exact Line.isWhole_of_arguments hdraft hname hquote

/-- A new panel is about the command that the first text names. -/
theorem panel_of_arguments {settings : PanelSettings} {registry : Registry η} {text name : String}
    {args : List String} {command : Command η}
    (hdraft : Draft.read text settings.marker = .arguments name args) (hname : name.isEmpty = false)
    (hcommand : registry.resolve? name settings.marker = some command)
    (ask : Command η → List String → Answer) :
    let panel := ((start settings).run [.type registry ask text]).panel
    panel.mode = .arguments ∧ panel.command? = some command ∧ panel.text = text := by
  have hstart : (start settings : Exchange η).panel.settings = settings := rfl
  rw [← hstart] at hdraft hcommand
  obtain ⟨hmode, habout, htext⟩ := panel_step_type (start settings) registry ask text
  rw [Panel.focus_of_arguments hdraft hname hcommand] at hmode habout
  exact ⟨hmode, habout, htext⟩

/-- The places in the usage line of a reminder. -/
theorem placeholders_reminder :
    (Builtin.reminder Desk.services "/").placeholders = ["<time>", "<message>"] := by
  decide

/-- Quotations that are closed before the next white space leave the places as they are. -/
theorem hint_behind_quoted_time :
    let text := "/remind \"5\"m wa"
    let registry := Builtin.registry Desk.services "/"
    let panel := ((start {}).run [.type registry (fun _ _ => .silent) text]).panel
    Configuration.isMarker "/" = true ∧ panel.mode = .arguments ∧
      panel.command? = some (Builtin.reminder Desk.services "/") ∧ panel.hint? = some "<message>" ∧
        (Line.parse (text ++ "x") "/").args.length = 1 + 1 := by
  intro text registry panel
  have hmarker : Configuration.isMarker ({} : PanelSettings).marker = true := by decide
  have hdraft : Draft.read text ({} : PanelSettings).marker = .arguments "remind" ["\"5\"m", "wa"] := by
    decide
  have hresolve : registry.resolve? "remind" ({} : PanelSettings).marker =
      some (Builtin.reminder Desk.services "/") := rfl
  clear_value registry
  obtain ⟨hmode, hcommand, htext⟩ := panel_of_arguments hdraft (by decide) hresolve fun _ _ => .silent
  obtain ⟨entries, place, hfields, hlength, hhint, -, hiff, -⟩ :=
    hint_counts_entries hmarker [.type registry (fun _ _ => .silent) text] _ hmode hcommand
  rw [htext, (Line.draftFields?_of_arguments hdraft).1] at hfields
  obtain rfl := Option.some.inj hfields
  obtain rfl : 1 = place := by
    rw [List.length_cons, List.length_cons, List.length_singleton] at hlength
    omega
  rw [placeholders_reminder] at hhint
  rw [htext] at hiff
  exact ⟨hmarker, hmode, hcommand, hhint, hiff.2 (by decide)⟩

/-- White space in a quotation moves the hint on: a time of three words takes three places, and a reminder has
no fourth one. -/
theorem hint_behind_long_time :
    let text := "/reminder \"in 30 minutes\" "
    let registry := Builtin.registry Desk.services "/"
    let command := Builtin.reminder Desk.services "/"
    let panel := ((start {}).run [.type registry (fun _ _ => .silent) text]).panel
    let args := (Line.parse (text ++ "x") "/").args
    Configuration.isMarker "/" = true ∧ panel.mode = .arguments ∧ panel.command? = some command ∧
      args = ["in 30 minutes", "x"] ∧ command.placeholders[args.length - 1]? = some "<message>" ∧
        panel.hint? = none := by
  intro text registry command panel args
  have hdraft : Draft.read text ({} : PanelSettings).marker =
      .arguments "reminder" ["\"in", "30", "minutes\"", ""] := by decide
  have hresolve : registry.resolve? "reminder" ({} : PanelSettings).marker = some command := rfl
  clear_value registry
  obtain ⟨hmode, hcommand, htext⟩ := panel_of_arguments hdraft (by decide) hresolve fun _ _ => .silent
  have hargs : args = ["in 30 minutes", "x"] := by decide
  have hhint : panel.hint? = command.placeholders[3]? := by
    have hsettings : panel.settings = {} :=
      settings_run (start {}) [.type registry (fun _ _ => .silent) text]
    rw [Panel.hint?, hmode, hcommand, hsettings, htext, hdraft]
    rfl
  refine ⟨by decide, hmode, hcommand, hargs, ?_, ?_⟩
  · rw [hargs, placeholders_reminder]
    rfl
  · rw [hhint, placeholders_reminder]
    rfl

end Exchange

end Jotter
