import Jotter.Proofs.Command.Lookup
import Jotter.Proofs.Panel.Coherence
import Jotter.Proofs.Panel.Completion

/-! Accepting what is shown. Since the text last changed, every entry is either a registered command or a
value for the argument that is being typed, also if the value came late. So the line that accepting makes
ends behind a whole name or behind a whole argument: given back to the panel it keeps the command, and
nothing is left to ask for. -/

namespace Jotter

open Text

variable {η : Type}

namespace Panel

/-! ### The line that an entry makes -/

theorem toList_withoutLastToken {text marker name : String} {args : List String}
    (hdraft : Draft.read text marker = .arguments name args) :
    (withoutLastToken text).toList ++ (Draft.current args).toList = text.toList := by
  rw [← Line.rtakeWhile_of_arguments hdraft, withoutLastToken, String.toList_ofList]
  exact List.rdropWhile_append_rtakeWhile

/-- What stands before the argument that is being typed ends with white space, and its words are the name
and the arguments before. A line with anything else in the place of the argument is cut at the same
marker. -/
theorem exists_cut_accepted {text marker name : String} {args : List String}
    (hmarker : Configuration.isMarker marker = true)
    (hdraft : Draft.read text marker = .arguments name args) (hname : name ≠ "")
    (hcurrent : Draft.current args ≠ "") :
    ∃ lead kept c, isBlank c = true ∧ wordsChars kept = (name :: args.dropLast).map String.toList ∧
      (∀ d ∈ (kept ++ [c]).head?, isBlank d = false) ∧ kept ++ [c] ⊆ text.toList ∧
      ∀ value : String, Line.Cut (withoutLastToken text ++ value) marker lead
        (.ofList (kept ++ [c]) ++ value) := by
  obtain ⟨lead, rest, kept, c, hcut, hrest, hhead, hc, hwords⟩ :=
    Line.exists_cut_of_arguments hdraft hname hcurrent
  have hne : String.ofList (kept ++ [c]) ≠ "" := by simp
  have hsplit : rest = .ofList (kept ++ [c]) ++ Draft.current args := by
    apply String.toList_injective
    simp [hrest]
  have htext : text.toList = lead ++ (marker.toList ++ (kept ++ [c])) ++ (Draft.current args).toList := by
    rw [hcut.toList_eq, hrest]
    simp
  have hbefore : (withoutLastToken text).toList = lead ++ (marker.toList ++ (kept ++ [c])) :=
    List.append_cancel_right ((toList_withoutLastToken hdraft).trans htext)
  refine ⟨lead, kept, c, hc, hwords, ?_, ?_, fun value => ?_⟩
  · intro d hd
    apply hhead d
    rw [hrest, List.append_cons, List.head?_append, hd]
    rfl
  · rw [htext]
    exact fun d hd =>
      List.mem_append_left _ (List.mem_append_right _ (List.mem_append_right _ hd))
  · refine Line.cut_of_toList hmarker hcut.blank ?_ ?_
    · simp [hbefore]
    · have hunmarked := hcut.unmarked
      rw [hsplit, Line.startsWith_append_right hmarker hne] at hunmarked
      rwa [Line.startsWith_append_right hmarker hne]

/-- The entries of the line that accepting a value makes. -/
theorem draftFields?_accepted {text marker name : String} {args : List String}
    (hmarker : Configuration.isMarker marker = true)
    (hdraft : Draft.read text marker = .arguments name args) (hname : name ≠ "")
    (hcurrent : Draft.current args ≠ "") (value : String) :
    Line.draftFields? (withoutLastToken text ++ value ++ " ") marker =
      some (name :: (args.dropLast ++ words value ++ [""])) := by
  obtain ⟨lead, kept, c, hc, hwords, hhead, -, hcut⟩ :=
    exists_cut_accepted hmarker hdraft hname hcurrent
  have hline := hcut (value ++ " ")
  rw [← String.append_assoc] at hline
  refine Line.draftFields?_eq_some.2 ⟨lead, _, hline, ?_⟩
  have hrest : (String.ofList (kept ++ [c]) ++ (value ++ " ")).toList =
      kept ++ c :: (value.toList ++ [' ']) := by simp
  have hbegin : ∀ d ∈ (kept ++ c :: (value.toList ++ [' '])).head?, isBlank d = false := by
    rw [List.append_cons, List.head?_append_of_ne_nil _ (by simp)]
    exact hhead
  have hend : ∀ d ∈ (kept ++ c :: (value.toList ++ [' '])).getLast?, isBlank d = true := by
    rw [← List.cons_append, ← List.append_assoc, List.getLast?_concat]
    rintro d ⟨⟩
    exact isBlank_space _ (List.mem_singleton_self _)
  rw [fields, hrest, fieldsChars_eq_concat (by simp) hbegin hend, wordsChars_append_cons hc, hwords,
    wordsChars_append_blank isBlank_space]
  simp [words]

/-- The entries of the line that accepting a name makes. -/
theorem draftFields?_name {marker name : String} (hmarker : Configuration.isMarker marker = true)
    (hname : name ≠ "") (hblank : ∀ c ∈ name.toList, isBlank c = false)
    (hunmarked : startsWith name marker = false) :
    Line.draftFields? (marker ++ name ++ " ") marker = some [name, ""] := by
  have hcut : Line.Cut (marker ++ name ++ " ") marker [] (name ++ " ") := by
    refine Line.cut_of_toList hmarker (by simp) (by simp) ?_
    rwa [Line.startsWith_append_right hmarker hname]
  refine Line.draftFields?_eq_some.2 ⟨[], _, hcut, ?_⟩
  have hnothing : ∀ d ∈ ([] : List Char).head?, isBlank d = false := by simp
  have hfields := fieldsChars_append hblank (List.cons_ne_nil _ _) isBlank_space hnothing
  rw [List.append_nil] at hfields
  rw [fields, String.toList_append, show " ".toList = [' '] from rfl, hfields]
  simp [fieldsChars]

/-! ### Where an entry comes from -/

theorem arguments_of_command?_focus {panel : Panel η} {registry : Registry η} {text : String}
    {command : Command η} (hcommand : (panel.focus registry text).command? = some command) :
    ∃ name args, Draft.read text panel.settings.marker = .arguments name args ∧ name ≠ "" ∧
      registry.resolve? name panel.settings.marker = some command := by
  rw [focus] at hcommand
  cases hdraft : Draft.read text panel.settings.marker with
  | none =>
      rw [hdraft] at hcommand
      cases hcommand
  | name lead =>
      rw [hdraft] at hcommand
      cases hcommand
  | arguments name args =>
      rw [hdraft, present] at hcommand
      split at hcommand
      · cases hcommand
      rename_i hname
      split at hcommand
      · rename_i own hown
        refine ⟨name, args, rfl, by simpa using hname, hown.trans ?_⟩
        exact hcommand
      · cases hcommand

/-- An argument of a command is being typed. -/
structure Awaits (panel : Panel η) (registry : Registry η) (command : Command η) (name : String)
    (args : List String) : Prop where
  command?_eq : panel.command? = some command
  read_eq : Draft.read panel.text panel.settings.marker = .arguments name args
  name_ne : name ≠ ""
  current_ne : Draft.current args ≠ ""
  resolve?_eq : registry.resolve? name panel.settings.marker = some command

/-- An entry is a registered command, or a value for the argument that is being typed. -/
def Shows (panel : Panel η) (registry : Registry η) (suggestion : Suggestion η) : Prop :=
  suggestion.kind = .commandName ∧ suggestion.command ∈ registry.commands ∨
    suggestion.kind = .arguments ∧ ∃ name args, panel.Awaits registry suggestion.command name args

theorem awaits_of_request? {panel : Panel η} {registry : Registry η} {text : String}
    {request : Request η} (hrequest : (panel.focus registry text).request? = some request) :
    ∃ name args, (panel.focus registry text).Awaits registry request.command name args := by
  have hrenewed := renewed_focus panel registry text
  have hcommand := (request?_eq_some hrequest).2
  obtain ⟨name, args, hdraft, hname, hresolve⟩ := arguments_of_command?_focus hcommand
  refine ⟨name, args, hcommand, ?_, hname, ?_, ?_⟩
  · rw [hrenewed.text_eq, hrenewed.settings_eq]
    exact hdraft
  · intro hempty
    rw [request?_focus hdraft (.inr (.inr (String.isEmpty_iff.2 hempty)))] at hrequest
    cases hrequest
  · rw [hrenewed.settings_eq]
    exact hresolve

/-- Before any provider has answered only commands are shown. -/
theorem shows_of_mem_focus {panel : Panel η} {registry : Registry η} {text : String}
    {suggestion : Suggestion η} (hsuggestion : suggestion ∈ (panel.focus registry text).suggestions) :
    suggestion.kind = .commandName ∧ suggestion.command ∈ registry.commands := by
  cases hdraft : Draft.read text panel.settings.marker with
  | none =>
      rw [focus, hdraft] at hsuggestion
      cases hsuggestion
  | name lead =>
      rw [focus, hdraft] at hsuggestion
      obtain ⟨command, hcommand, rfl⟩ := List.mem_map.1 hsuggestion
      have hmatching := (capped_sublist _ _).subset hcommand
      exact ⟨rfl, (List.mem_filter.1 (List.mem_filter.1 hmatching).1).1⟩
  | arguments name args =>
      rw [suggestions_focus hdraft] at hsuggestion
      cases hsuggestion

/-! ### The panel after accepting -/

/-- Where nothing is to be asked for, nobody is asked. -/
theorem update_of_request?_eq_none {m : Type → Type} [Monad m]
    (ask : Command η → List String → m Answer) {panel : Panel η} {registry : Registry η} {text : String}
    (hrequest : (panel.focus registry text).request? = none) :
    panel.update ask registry text = pure (panel.focus registry text, none) := by
  rw [update, hrequest]

/-- A line of a command that ends behind white space: the panel is about the command, with nothing to show
and nothing to ask for. -/
structure Rests (panel : Panel η) (registry : Registry η) (line : String) (command : Command η) : Prop where
  mode_eq : (panel.focus registry line).mode = .arguments
  suggestions_eq : (panel.focus registry line).suggestions = []
  command?_eq : (panel.focus registry line).command? = some command
  request?_eq : (panel.focus registry line).request? = none

theorem rests_of_draftFields? {panel : Panel η} {registry : Registry η} {line name : String}
    {before : List String} {command : Command η}
    (hfields : Line.draftFields? line panel.settings.marker = some (name :: (before ++ [""])))
    (hname : name ≠ "") (hresolve : registry.resolve? name panel.settings.marker = some command) :
    panel.Rests registry line command := by
  have hdraft := Line.read_of_draftFields? (by simp) hfields
  have hcurrent : (Draft.current (before ++ [""])).isEmpty = true := by simp [Draft.current]
  have hfocus := focus_of_arguments hdraft (by simpa using hname) hresolve
  have hrequest : (panel.focus registry line).request? = none :=
    request?_focus hdraft (.inr (.inr hcurrent))
  refine ⟨?_, ?_, ?_, hrequest⟩
  all_goals
    rw [hfocus]
    rfl

end Panel

namespace Exchange

/-- Since the text last changed: every entry is a registered command or a value for the argument that is
being typed, and a request that can still be answered is for this argument. -/
structure Grounded (exchange : Exchange η) (registry : Registry η) : Prop where
  shows : ∀ suggestion ∈ exchange.panel.suggestions, exchange.panel.Shows registry suggestion
  awaits : ∀ request ∈ exchange.requests, request.generation = exchange.panel.generation →
    ∃ name args, exchange.panel.Awaits registry request.command name args

/-- Whatever was shown before, a change of the text grounds what is shown. -/
theorem grounded_step_type {exchange : Exchange η} (hahead : exchange.NoneAhead) (registry : Registry η)
    (ask : Command η → List String → Answer) (text : String) :
    (exchange.step (.type registry ask text)).1.Grounded registry := by
  have hold : ∀ request ∈ exchange.requests, request.generation ≠ exchange.panel.generation + 1 :=
    fun request hrequest => Nat.ne_of_lt (Nat.lt_succ_of_le (hahead request hrequest))
  have hfocus : ∀ suggestion ∈ (exchange.panel.focus registry text).suggestions,
      (exchange.panel.focus registry text).Shows registry suggestion :=
    fun suggestion hsuggestion => .inl (Panel.shows_of_mem_focus hsuggestion)
  have hcases := Panel.update_cases ask exchange.panel registry text
  rw [step_type_eq]
  generalize Id.run (exchange.panel.update (m := Id) ask registry text) = updated at hcases
  rcases hcases with rfl | ⟨new, hnew, ⟨values, rfl⟩ | rfl⟩
  · refine ⟨hfocus, fun request hrequest hcurrent => absurd ?_ (hold request hrequest)⟩
    rw [hcurrent, Panel.focus_generation]
  · refine ⟨fun suggestion hsuggestion => ?_, fun request hrequest hcurrent =>
      absurd ?_ (hold request hrequest)⟩
    · obtain ⟨value, -, rfl⟩ := List.mem_map.1 hsuggestion
      obtain ⟨name, args, hawaits⟩ := Panel.awaits_of_request? hnew
      exact .inr ⟨rfl, name, args, { hawaits with }⟩
    · exact hcurrent.trans (Panel.focus_generation _ _ _)
  · refine ⟨hfocus, fun request hrequest hcurrent => ?_⟩
    rw [requests, List.map_append, List.mem_append, List.mem_map] at hrequest
    rcases hrequest with hrequest | hrequest
    · refine absurd ?_ (hold request (List.mem_map.2 hrequest))
      rw [hcurrent, Panel.focus_generation]
    · obtain rfl := List.mem_singleton.1 hrequest
      exact Panel.awaits_of_request? hnew

/-- Without a change of the text the same argument is being typed. -/
theorem awaits_step {exchange : Exchange η} {registry : Registry η} {command : Command η} {name : String}
    {args : List String} (hawaits : exchange.panel.Awaits registry command name args) {step : Step η}
    (hstep : step.isTyping = false) :
    (exchange.step step).1.panel.Awaits registry command name args where
  command?_eq := (command?_step hstep).trans hawaits.command?_eq
  read_eq := by
    rw [text_step hstep, settings_step]
    exact hawaits.read_eq
  name_ne := hawaits.name_ne
  current_ne := hawaits.current_ne
  resolve?_eq := by
    rw [settings_step]
    exact hawaits.resolve?_eq

theorem shows_step {exchange : Exchange η} {registry : Registry η} {suggestion : Suggestion η}
    (hshows : exchange.panel.Shows registry suggestion) {step : Step η} (hstep : step.isTyping = false) :
    (exchange.step step).1.panel.Shows registry suggestion := by
  rcases hshows with hname | ⟨hkind, name, args, hawaits⟩
  · exact .inl hname
  · exact .inr ⟨hkind, name, args, awaits_step hawaits hstep⟩

namespace Grounded

variable {exchange : Exchange η} {registry : Registry η}

/-- A late answer that is taken is for the argument that is being typed. -/
theorem mem_suggestions_step (hgrounded : exchange.Grounded registry) {step : Step η}
    (hstep : step.isTyping = false) {suggestion : Suggestion η}
    (hsuggestion : suggestion ∈ (exchange.step step).1.panel.suggestions) :
    exchange.panel.Shows registry suggestion := by
  cases step with
  | type registry ask text => cases hstep
  | answer ticket offer =>
      rcases step_answer exchange ticket offer with ⟨request, hwaiting⟩ | ⟨-, hidle⟩
      · rw [step_answer_of_waiting hwaiting] at hsuggestion
        split at hsuggestion
        · rename_i hgeneration
          obtain ⟨value, -, rfl⟩ := List.mem_map.1 hsuggestion
          have hrequest := List.mem_of_getElem? (getElem?_requests hwaiting)
          exact .inr ⟨rfl, hgrounded.awaits request hrequest hgeneration⟩
        · exact hgrounded.shows suggestion hsuggestion
      · rw [hidle] at hsuggestion
        exact hgrounded.shows suggestion hsuggestion
  | gesture gesture =>
      exact hgrounded.shows suggestion (Panel.after_suggestions _ gesture ▸ hsuggestion)

theorem step (hgrounded : exchange.Grounded registry) {step : Step η} (hstep : step.isTyping = false) :
    (exchange.step step).1.Grounded registry where
  shows suggestion hsuggestion :=
    shows_step (hgrounded.mem_suggestions_step hstep hsuggestion) hstep
  awaits request hrequest hcurrent := by
    rw [requests_step hstep] at hrequest
    rw [generation_step hstep] at hcurrent
    obtain ⟨name, args, hawaits⟩ := hgrounded.awaits request hrequest hcurrent
    exact ⟨name, args, awaits_step hawaits hstep⟩

theorem run (hgrounded : exchange.Grounded registry) {steps : List (Step η)}
    (hsteps : ∀ step ∈ steps, step.isTyping = false) : (exchange.run steps).Grounded registry := by
  induction steps generalizing exchange with
  | nil => exact hgrounded
  | cons step steps ih =>
      rw [List.forall_mem_cons] at hsteps
      exact ih (hgrounded.step hsteps.1) hsteps.2

end Grounded

/-- Whatever came before the last change of the text, what is shown now goes back to that change. -/
theorem grounded_run (settings : PanelSettings) (before : List (Step η)) (registry : Registry η)
    (ask : Command η → List String → Answer) (text : String) {after : List (Step η)}
    (hafter : ∀ step ∈ after, step.isTyping = false) :
    ((start settings).run (before ++ .type registry ask text :: after)).Grounded registry := by
  have hattuned := (attuned_start settings).run before
  rw [run_append, run_cons]
  exact (grounded_step_type hattuned.none_ahead registry ask text).run hafter

end Exchange

namespace Panel

/-- The line of a registered command that is accepted. -/
theorem rests_of_name {panel : Panel η} {registry : Registry η} {command : Command η}
    (hmarker : Configuration.isMarker panel.settings.marker = true)
    (hregistry : registry.WellFormed) (hnamed : registry.Named) (hcommand : command ∈ registry.commands)
    (hblank : ∀ c ∈ command.name.toList, isBlank c = false)
    (hunmarked : startsWith command.name panel.settings.marker = false) :
    let line := panel.settings.marker ++ command.name ++ " "
    Line.draftFields? line panel.settings.marker = some [command.name, ""] ∧
      panel.Rests registry line command := by
  intro line
  have hname := hnamed.name_ne hcommand
  have hfields := draftFields?_name hmarker hname hblank hunmarked
  have hresolve := hregistry.resolve?_of_normalize hcommand List.mem_cons_self hname
    (Registry.normalize_of_plain (trim_eq_self hblank) hunmarked)
  have hlast : Line.draftFields? line panel.settings.marker = some (command.name :: ([] ++ [""])) := hfields
  exact ⟨hfields, rests_of_draftFields? hlast hname hresolve⟩

/-- The line of a value that is accepted for the argument that is being typed. -/
theorem rests_of_value {panel : Panel η} {registry : Registry η} {command : Command η} {name : String}
    {args : List String} (hmarker : Configuration.isMarker panel.settings.marker = true)
    (hawaits : panel.Awaits registry command name args) (value : String) :
    let line := withoutLastToken panel.text ++ value ++ " "
    Line.draftFields? line panel.settings.marker = some (name :: (args.dropLast ++ words value ++ [""])) ∧
      panel.Rests registry line command := by
  intro line
  have hfields :=
    draftFields?_accepted hmarker hawaits.read_eq hawaits.name_ne hawaits.current_ne value
  exact ⟨hfields, rests_of_draftFields? hfields hawaits.name_ne hawaits.resolve?_eq⟩

end Panel

namespace Exchange

/-- In every state that a run leads to, if a panel can be seen and its registry has not changed since the
last change of the text, where names hold no white space and do not begin with the marker: there is a
highlighted entry, and the line that accepting it makes, given back to the panel, asks no provider,
whatever providers can do, and leaves no request and no entries, in the mode for arguments. For a command
the line has the name and an empty entry, and the panel is about the command. For a value the panel stays
about its command, and the words of the value and an empty entry take the place of the last entry; of a
word, the word itself. -/
theorem accepting_leads_on {settings : PanelSettings}
    (hmarker : Configuration.isMarker settings.marker = true) (changes : List (Registry.Change η))
    (hnames : ∀ command ∈ ((Registry.empty : Registry η).run changes).commands,
      (∀ c ∈ command.name.toList, isBlank c = false) ∧ startsWith command.name settings.marker = false)
    (before : List (Step η)) (ask : Command η → List String → Answer) (text : String)
    {after : List (Step η)} (hafter : ∀ step ∈ after, step.isTyping = false) :
    let registry : Registry η := Registry.empty.run changes
    let panel := ((start settings).run (before ++ .type registry ask text :: after)).panel
    panel.visible = true →
      ∃ suggestion line next, panel.selected? = some suggestion ∧ panel.accept? = some line ∧
        (∀ (m : Type → Type) [Monad m] (ask : Command η → List String → m Answer),
          panel.update ask registry line = pure (next, none)) ∧
        next.mode = .arguments ∧ next.suggestions = [] ∧
        (suggestion.kind = .commandName ∧ next.command? = some suggestion.command ∧
            Line.draftFields? line settings.marker = some [suggestion.command.name, ""] ∨
          suggestion.kind = .arguments ∧ next.command? = panel.command? ∧
            ∃ entries, Line.draftFields? panel.text settings.marker = some entries ∧
              Line.draftFields? line settings.marker =
                some (entries.dropLast ++ words suggestion.value ++ [""]) ∧
              (suggestion.value ≠ "" → (∀ c ∈ suggestion.value.toList, isBlank c = false) →
                Line.draftFields? line settings.marker =
                  some (entries.dropLast ++ [suggestion.value, ""]))) := by
  intro registry panel hvisible
  have hgrounded := grounded_run settings before registry ask text hafter
  obtain ⟨hsettings, -, hselected, -⟩ :=
    panel_invariant settings (before ++ .type registry ask text :: after)
  obtain ⟨suggestion, hentry, hselected, -⟩ := hselected hvisible
  have hsettings : panel.settings = settings := hsettings
  have hregistry : registry.WellFormed := Registry.wellFormed_empty.run changes
  have hnamed : registry.Named := Registry.named_empty.run Registry.wellFormed_empty changes
  rw [← hsettings] at hmarker hnames ⊢
  have haccept : panel.accept? = some (Panel.accepted panel.settings.marker panel.text suggestion) := by
    rw [Panel.accept?, hselected]
    rfl
  have hasks : ∀ {line : String} {command : Command η}, panel.Rests registry line command →
      ∀ (m : Type → Type) [Monad m] (ask : Command η → List String → m Answer),
        panel.update ask registry line = pure (panel.focus registry line, none) :=
    fun hrests m _ ask => Panel.update_of_request?_eq_none ask hrests.request?_eq
  rcases hgrounded.shows suggestion (List.mem_of_getElem? hentry) with
    ⟨hkind, hcommand⟩ | ⟨hkind, name, args, hawaits⟩
  · rw [Panel.accepted, hkind] at haccept
    obtain ⟨hblank, hunmarked⟩ := hnames _ hcommand
    obtain ⟨hfields, hrests⟩ :=
      Panel.rests_of_name hmarker hregistry hnamed hcommand hblank hunmarked
    exact ⟨suggestion, _, _, hselected, haccept, hasks hrests, hrests.mode_eq, hrests.suggestions_eq,
      .inl ⟨hkind, hrests.command?_eq, hfields⟩⟩
  · rw [Panel.accepted, hkind] at haccept
    obtain ⟨hfields, hrests⟩ := Panel.rests_of_value hmarker hawaits suggestion.value
    obtain ⟨hentries, hargs⟩ := Line.draftFields?_of_arguments hawaits.read_eq
    have hbefore : (name :: args).dropLast = name :: args.dropLast := List.dropLast_cons_of_ne_nil hargs
    refine ⟨suggestion, _, _, hselected, haccept, hasks hrests, hrests.mode_eq, hrests.suggestions_eq,
      .inr ⟨hkind, hrests.command?_eq.trans hawaits.command?_eq.symm, _, hentries, ?_, ?_⟩⟩
    · rw [hfields, hbefore]
      rfl
    · intro hne hblank
      rw [hfields, hbefore, words, wordsChars_eq_singleton hblank (by simpa using hne)]
      simp

/-- The second of two late values is accepted, behind a name in another case and a wide gap. -/
theorem late_value_accepted :
    let registry : Registry Unit := Registry.empty.run [.register (Registry.bareCommand "ping") false]
    let after : List (Step Unit) := [.answer 0 (.ok (some ["alpha", "beta"])), .gesture .moveDown]
    let panel := ((start {}).run ([] ++ .type registry (fun _ _ => .later) " /Ping \tb" :: after)).panel
    Configuration.isMarker defaultMarker = true ∧
      (∀ command ∈ registry.commands,
        (∀ c ∈ command.name.toList, isBlank c = false) ∧ startsWith command.name defaultMarker = false) ∧
      (∀ step ∈ after, step.isTyping = false) ∧ panel.visible = true ∧
      ∃ next, (∀ (m : Type → Type) [Monad m] (ask : Command Unit → List String → m Answer),
          panel.update ask registry " /Ping \tbeta " = pure (next, none)) ∧
        next.mode = .arguments ∧ next.suggestions = [] ∧ next.command? = panel.command? ∧
        Line.draftFields? panel.text defaultMarker = some ["Ping", "b"] ∧
          Line.draftFields? " /Ping \tbeta " defaultMarker = some ["Ping", "beta", ""] := by
  intro registry after panel
  have hnames : ∀ command ∈ registry.commands,
      (∀ c ∈ command.name.toList, isBlank c = false) ∧ startsWith command.name defaultMarker = false := by
    intro command hcommand
    obtain rfl : command = Registry.bareCommand "ping" := List.mem_singleton.1 hcommand
    exact ⟨by simp [Registry.bareCommand, isBlank], by decide⟩
  have hafter : ∀ step ∈ after, step.isTyping = false := by simp [after, Step.isTyping]
  have hvisible : panel.visible = true := by decide
  have haccept : panel.accept? = some " /Ping \tbeta " := by decide
  have hbefore : Line.draftFields? panel.text defaultMarker = some ["Ping", "b"] := by decide
  have hshown : panel.selected?.map (fun entry => (entry.kind, entry.value)) =
      some (.arguments, "beta") := by decide
  have hmarker : Configuration.isMarker ({} : PanelSettings).marker = true := by decide
  have hleads := accepting_leads_on hmarker [.register (Registry.bareCommand "ping") false] hnames []
    (fun _ _ => .later) " /Ping \tb" hafter
  extract_lets shown at hleads
  -- the state is not computed again below
  have hsame : shown = panel := rfl
  clear_value shown panel
  subst hsame
  obtain ⟨suggestion, line, next, hselected, hline, hupdate, hmode, hnothing, hkind⟩ := hleads hvisible
  rw [hselected] at hshown
  obtain rfl : " /Ping \tbeta " = line := Option.some.inj (haccept.symm.trans hline)
  obtain ⟨hvalue, hbeta⟩ := Prod.mk.inj (Option.some.inj hshown)
  obtain ⟨hname, -⟩ | ⟨-, hcommand, entries, hentries, -, hword⟩ := hkind
  · rw [hvalue] at hname
    cases hname
  · obtain rfl : ["Ping", "b"] = entries := Option.some.inj (hbefore.symm.trans hentries)
    rw [hbeta] at hword
    exact ⟨hmarker, hnames, hafter, hvisible, next, hupdate, hmode, hnothing, hcommand, hbefore,
      hword (by decide) (by simp [isBlank])⟩

end Exchange

end Jotter
