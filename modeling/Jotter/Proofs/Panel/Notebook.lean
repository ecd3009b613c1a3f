import Jotter.Proofs.Builtin.Desk
import Jotter.Proofs.Panel.Acceptance
import Jotter.Proofs.Text.Joined

/-! From a suggested notebook to the active one. The provider looks for all arguments in the names, but the
text that a suggestion makes keeps the arguments before the last one, and the handler puts together the
words of what it gets. So a suggested name becomes the active one exactly where nothing of this makes a
difference. -/

namespace Jotter

open Text

namespace Panel

variable {σ : Type}

/-! ### What is shown -/

theorem command?_settled (panel : Panel (Hooks σ)) (canWait : Bool) (text : String)
    (asked answered : Session σ) :
    (panel.settled canWait text asked answered).command? =
      (panel.focus asked.registry text).command? := by
  rw [settled_eq]
  split
  · rfl
  · split <;> rfl

theorem shown_of_install {η : Type} {panel : Panel η} {command : Command η} {values : List String}
    {i : Nat} {suggestion : Suggestion η}
    (hsuggestion : (panel.install command values).suggestions[i]? = some suggestion) :
    suggestion.kind = .arguments ∧ suggestion.value ∈ values := by
  obtain ⟨value, hvalue, rfl⟩ := List.mem_map.1 (List.mem_of_getElem? hsuggestion)
  exact ⟨rfl, (capped_sublist _ _).subset hvalue⟩

/-- A value that is shown for an argument is one that the provider offers for it. -/
theorem offered_of_shown {panel : Panel (Hooks σ)} {canWait : Bool} {text : String}
    {session : Session σ} {command : Command (Hooks σ)} {i : Nat} {suggestion : Suggestion (Hooks σ)}
    (hcommand : (panel.settled canWait text session session).command? = some command)
    (hsuggestion : (panel.settled canWait text session session).suggestions[i]? = some suggestion) :
    ∃ name args, Draft.read text panel.settings.marker = .arguments name args ∧ name ≠ "" ∧
      Draft.current args ≠ "" ∧ session.registry.resolve? name panel.settings.marker = some command ∧
        suggestion.kind = .arguments ∧
          suggestion.value ∈ (session.offered command args).values := by
  rw [command?_settled] at hcommand
  obtain ⟨name, args, hdraft, hname, hresolve⟩ := arguments_of_command?_focus hcommand
  have hnothing := suggestions_focus hdraft session.registry
  have hcurrent : Draft.current args ≠ "" := by
    intro hempty
    have hrequest : (panel.focus session.registry text).request? = none :=
      request?_focus hdraft (.inr (.inr (String.isEmpty_iff.2 hempty)))
    rw [settled_of_request?_eq_none hrequest, hnothing] at hsuggestion
    cases hsuggestion
  refine ⟨name, args, hdraft, hname, hcurrent, hresolve, ?_⟩
  have hfocus := focus_of_arguments hdraft (by simpa using hname) hresolve
  rw [hfocus] at hnothing
  rw [settled_eq, hfocus, request?_showArguments hdraft (by simpa using hcurrent)] at hsuggestion
  dsimp only at hsuggestion
  rw [Session.ask_run] at hsuggestion
  cases hprovider : command.hooks.provider with
  | none =>
      rw [hprovider] at hsuggestion
      cases hsuggestion
  | some provider =>
      rw [hprovider] at hsuggestion
      dsimp only at hsuggestion
      cases hdeferred : provider.deferred with
      | true =>
          rw [hdeferred, if_pos rfl] at hsuggestion
          cases canWait with
          | true => exact shown_of_install hsuggestion
          | false => cases hsuggestion
      | false =>
          rw [hdeferred, if_neg Bool.false_ne_true] at hsuggestion
          cases hoffer : session.offered command args with
          | error failure =>
              rw [hoffer] at hsuggestion
              cases hsuggestion
          | ok values =>
              rw [hoffer] at hsuggestion
              exact shown_of_install hsuggestion

/-! ### The line that a suggestion makes -/

/-- The tokens of a value behind the arguments that are complete. -/
theorem parse_accepted {text marker name : String} {args : List String}
    (hmarker : Configuration.isMarker marker = true)
    (hdraft : Draft.read text marker = .arguments name args) (hname : name ≠ "")
    (hcurrent : Draft.current args ≠ "") (hquote : ∀ c ∈ text.toList, Line.isQuote c = false)
    {value : String} (hvalue : ∃ c ∈ value.toList, isBlank c = false) :
    Line.parse (withoutLastToken text ++ value ++ " ") marker =
      ⟨name, args.dropLast ++
        (Line.scanTokens none [] (trimRightChars value.toList)).map String.ofList⟩ := by
  obtain ⟨lead, kept, c, hc, hwords, -, hkept, hcut⟩ :=
    exists_cut_accepted hmarker hdraft hname hcurrent
  have hline := hcut (value ++ " ")
  rw [← String.append_assoc] at hline
  have hbody := hline.toList_body (Configuration.not_isBlank_of_isMarker hmarker)
  rw [String.toList_append, String.toList_ofList, String.toList_append,
    trimRightChars_append_right (by simpa using Or.inl hvalue),
    trimRightChars_append (by simp [isBlank])] at hbody
  have hkeptQuote : ∀ d ∈ kept ++ [c], Line.isQuote d = false := fun d hd => hquote d (hkept hd)
  have hend : ∀ d ∈ (kept ++ [c]).getLast?, isBlank d = true := by
    rw [List.getLast?_concat]
    rintro d ⟨⟩
    exact hc
  rw [Line.parse, hbody, Line.scanTokens_append hkeptQuote hend, wordsChars_append_cons hc, hwords,
    show wordsChars [] = [] from rfl, List.append_nil, List.map_append, List.map_map]
  simp [Invocation.ofTokens, Function.comp_def]

end Panel

/-! ### What the notebook command does with it -/

namespace Builtin

variable {session : Session Desk} {names : List String}

theorem offered_notebook (hnames : session.state.vault.notebooks = names.map .named) (marker : String)
    {args : List String} (hargs : args ≠ []) :
    session.offered (notebook Desk.services marker) args =
      .ok (some ((names.filter fun name =>
        occursIn (lower (" ".intercalate args)) (lower name)).take offerCap)) := by
  have hlist : (Action.onState Desk.services.listNotebooks).run.run session.scene =
      (.ok session.state.vault.notebooks, session.scene) := rfl
  have hsimilar := similarNotebooks_named names (" ".intercalate args)
  rw [← hnames] at hsimilar
  rw [Session.offered, Session.offer, notebook]
  dsimp only
  rw [Session.run_run, if_neg (by simpa using hargs), Attempt.run_bind, hlist]
  dsimp only
  rw [Attempt.run_bind, Attempt.ofExcept_run, hsimilar]
  rfl

end Builtin

/-- A line that succeeds and leaves a notebook the active one of the vault and of the session. -/
def Session.SwitchesTo (session : Session Desk) (line name : String) : Prop :=
  let ended := (execute line).run.run session
  (∃ result, ended.1 = .ok result ∧ result.success = true) ∧
    ended.2.state.vault.active = .text name ∧ ended.2.context.notebook = .text name

/-- The command for notebooks switches to the first name that its arguments, put together, are in some
case. -/
theorem Session.switchesTo_iff {session : Session Desk} {names : List String}
    (hnames : session.state.vault.notebooks = names.map .named) {line command : String}
    {args : List String} {marker : String} (hparse : Line.parse line session.marker = ⟨command, args⟩)
    (hcommand : command ≠ "")
    (hresolve : session.registry.resolve? command defaultMarker =
      some (Builtin.notebook Desk.services marker)) (wanted : String) :
    session.SwitchesTo line wanted ↔ args ≠ [] ∧
      names.find? (fun name => lower name == lower (" ".intercalate args)) = some wanted := by
  have hempty : (⟨command, args⟩ : Invocation).isEmpty = false := by simpa [Invocation.isEmpty]
  rw [SwitchesTo]
  cases args with
  | nil =>
      have hinvalid : (validate (Builtin.notebook Desk.services marker) []).run.run session =
          (.ok (.invalid (some ("Please provide a notebook name. Usage: " ++ marker ++
            "notebook <name>"))), session) := rfl
      rw [execute_run, hparse, hempty, if_neg Bool.false_ne_true, hresolve]
      dsimp only
      rw [hinvalid]
      simp [Result.rejected]
  | cons arg args =>
      have hscene : session.scene.state.vault.notebooks = names.map .named := hnames
      have hrun := Builtin.switchNotebook_run hscene (arg :: args)
      rw [execute_of_valid hparse hempty hresolve rfl, runHandler_run, run_run]
      dsimp only [Builtin.notebook]
      rw [hrun]
      cases names.find? fun name => lower name == lower (" ".intercalate (arg :: args)) with
      | none => simp [Result.failed]
      | some name => simp [withScene]

/-! ### Names with quotation marks -/

/-- Words put together have the quotation marks of the words. -/
theorem countP_intercalate (pieces : List (List Char)) :
    ([' '].intercalate pieces).countP Line.isQuote = pieces.flatten.countP Line.isQuote := by
  have hspace : [' '].countP Line.isQuote = 0 := by decide
  induction pieces with
  | nil => rfl
  | cons piece pieces ih =>
      by_cases hlast : pieces = []
      · simp [hlast]
      · rw [List.intercalate_cons_of_ne_nil hlast, List.countP_append, List.countP_append, hspace, ih,
          List.flatten_cons, List.countP_append, Nat.add_zero]

/-- A name with a quotation mark is not, in any case, the tokens that are read in it, behind any words
without one. -/
theorem lower_ne_of_quote {value : String} (hvalue : ∃ c ∈ value.toList, Line.isQuote c = true)
    {before : List String} (hbefore : ∀ word ∈ before, ∀ c ∈ word.toList, Line.isQuote c = false) :
    lower value ≠ lower (" ".intercalate (before ++
      (Line.scanTokens none [] (trimRightChars value.toList)).map String.ofList)) := by
  intro hsame
  have hlower : ∀ s : String, (lower s).toList.countP Line.isQuote = s.toList.countP Line.isQuote := by
    intro s
    rw [toList_lower, List.countP_eq_length_filter, lowerChars, filter_lowerFrom isSeparator_of_isQuote,
      List.countP_eq_length_filter]
  have hnone : (before.map String.toList).flatten.countP Line.isQuote = 0 := by
    rw [List.countP_eq_zero]
    intro c hc
    obtain ⟨word, hword, hmem⟩ := by simpa using hc
    simp [hbefore word hword c hmem]
  have hcount := congrArg (fun s : String => s.toList.countP Line.isQuote) hsame
  rw [hlower, hlower, String.toList_intercalate, show " ".toList = [' '] from rfl, countP_intercalate,
    List.map_append, List.flatten_append, List.countP_append, hnone, List.map_map] at hcount
  have htokens := Line.countP_scanTokens [] (trimRightChars value.toList)
  have htrim : (trimRightChars value.toList).countP Line.isQuote ≤ value.toList.countP Line.isQuote :=
    (List.rdropWhile_prefix isBlank _).sublist.countP_le
  have hpositive : 0 < value.toList.countP Line.isQuote := List.countP_pos_iff.2 hvalue
  simp only [Function.comp_def, String.toList_ofList, List.map_id', List.countP_nil] at hcount htokens
  omega

/-! ### Accepting a suggested notebook -/

namespace Builtin

/-- A name that is put in behind whole arguments becomes the active notebook iff there are none of these,
the name is its own words put together, without quotation marks, and it is the first one in its case. -/
theorem find?_tokens_iff {names before tokens : List String} {value : String}
    (hbefore : ∀ word ∈ before, IsWord word.toList ∧ ∀ c ∈ word.toList, Line.isQuote c = false)
    (hvalue : ∃ c ∈ value.toList, isBlank c = false)
    (htokens : tokens =
      before ++ (Line.scanTokens none [] (trimRightChars value.toList)).map String.ofList) :
    (tokens ≠ [] ∧
        names.find? (fun name => lower name == lower (" ".intercalate tokens)) = some value) ↔
      before = [] ∧
        ((∀ c ∈ value.toList, Line.isQuote c = false) ∧ " ".intercalate (words value) = value) ∧
        names.find? (fun name => lower name == lower value) = some value := by
  by_cases hquote : ∀ c ∈ value.toList, Line.isQuote c = false
  · have htrim : ∀ c ∈ trimRightChars value.toList, Line.isQuote c = false :=
      fun c hc => hquote c ((List.rdropWhile_prefix isBlank _).subset hc)
    have hwords : ∀ word ∈ before ++ words value, IsWord word.toList :=
      List.forall_mem_append.2 ⟨fun word hword => (hbefore word hword).1, fun _ => isWord_of_mem_words⟩
    rw [Line.scanTokens_eq_words htrim, wordsChars_trimRightChars, ← words] at htokens
    rw [htokens]
    constructor
    · rintro ⟨hne, hfound⟩
      have hsame : lower value = lower (" ".intercalate (before ++ words value)) := by
        simpa using List.find?_some hfound
      obtain ⟨hlength, hjoined⟩ := words_of_lower_eq hne hwords hsame
      rw [List.length_append] at hlength
      obtain rfl : before = [] := List.length_eq_zero_iff.1 (by omega)
      rw [List.nil_append, hjoined] at hfound
      exact ⟨rfl, ⟨hquote, hjoined⟩, hfound⟩
    · rintro ⟨rfl, ⟨-, hjoined⟩, hfound⟩
      rw [List.nil_append, hjoined]
      refine ⟨fun hnone => ?_, hfound⟩
      rw [hnone] at hjoined
      obtain ⟨c, hc, -⟩ := hvalue
      rw [← hjoined] at hc
      cases hc
  · constructor
    · rintro ⟨-, hfound⟩
      have hsame : lower value = lower (" ".intercalate tokens) := by simpa using List.find?_some hfound
      rw [htokens] at hsame
      exact absurd hsame (lower_ne_of_quote (by simpa using hquote) fun word hword => (hbefore word hword).2)
    · rintro ⟨-, ⟨hnone, -⟩, -⟩
      exact absurd hnone hquote

/-- While an argument of the command for notebooks is being typed, without quotation marks, each name that
is shown can be accepted. Running the line that this makes succeeds and leaves the name the active notebook
of the vault and of the session iff no other argument stands before the one that is typed, the name is its
own words with one space between them and holds no quotation mark, and it is the first of the names that
are the same in lower case. -/
theorem accepted_notebook_is_active_iff {session : Session Desk} {names : List String}
    (hmarker : session.marker = "/")
    (hnames : session.state.vault.notebooks = names.map .named) {panel : Panel (Hooks Desk)}
    (hpanel : panel.settings.marker = "/") (loop : Bool) {text : String}
    (hquote : ∀ c ∈ text.toList, Line.isQuote c = false) :
    let shown := panel.settled loop text session session
    shown.command? = some (notebook Desk.services "/") →
      ∀ i suggestion, shown.suggestions[i]? = some suggestion →
        ∃ line, (Panel.moveDown^[i] shown).accept? = some line ∧
          (session.SwitchesTo line suggestion.value ↔
            (∃ name argument, Line.draftFields? text "/" = some [name, argument]) ∧
              ((∀ c ∈ suggestion.value.toList, Line.isQuote c = false) ∧
                " ".intercalate (words suggestion.value) = suggestion.value) ∧
              names.find? (fun name => lower name == lower suggestion.value) =
                some suggestion.value) := by
  intro shown hcommand i suggestion hsuggestion
  obtain ⟨name, args, hdraft, hname, hcurrent, hresolve, hkind, hoffered⟩ :=
    Panel.offered_of_shown hcommand hsuggestion
  rw [hpanel] at hdraft hresolve
  obtain ⟨hfields, hargs⟩ := Line.draftFields?_of_arguments hdraft
  have hwords := Line.isWord_of_arguments hdraft hname hcurrent
  have hvalue : ∃ c ∈ suggestion.value.toList, isBlank c = false := by
    rw [offered_notebook hnames "/" hargs] at hoffered
    have hquery : words (" ".intercalate args) ≠ [] := by
      rwa [words_intercalate fun arg harg => hwords arg (List.mem_cons_of_mem _ harg)]
    exact exists_not_isBlank_of_occursIn hquery (List.mem_filter.1 (List.mem_of_mem_take hoffered)).2
  have hrenewed := panel.renewed_settled loop text session session
  have haccept := Panel.accept?_iterate hrenewed.index_eq hrenewed.dismissed_eq hsuggestion
  have hparse := Panel.parse_accepted (by decide) hdraft hname hcurrent hquote hvalue
  rw [← hmarker] at hparse
  have hbefore : ∀ word ∈ args.dropLast,
      IsWord word.toList ∧ ∀ c ∈ word.toList, Line.isQuote c = false := by
    intro word hword
    have hentry : word ∈ name :: args := List.mem_cons_of_mem _ (List.dropLast_subset _ hword)
    exact ⟨hwords word hentry, fun c hc => hquote c (Line.mem_of_mem_draftFields? hfields hentry hc)⟩
  have hsingle : (∃ name argument, Line.draftFields? text "/" = some [name, argument]) ↔
      args.dropLast = [] := by
    rw [hfields]
    constructor
    · rintro ⟨other, argument, hsame⟩
      obtain ⟨-, rfl⟩ := List.cons.inj (Option.some.inj hsame)
      rfl
    · intro hnone
      have hall := Line.dropLast_append_current hargs
      rw [hnone, List.nil_append] at hall
      exact ⟨name, Draft.current args, by rw [hall]⟩
  refine ⟨_, haccept, ?_⟩
  rw [hsingle, ← find?_tokens_iff hbefore hvalue rfl, hrenewed.text_eq, Panel.accepted, hkind]
  exact Session.switchesTo_iff hnames hparse hname hresolve suggestion.value

theorem resolve?_notebook : (registry Desk.services "/").resolve? "notebook" "/" =
    some (notebook Desk.services "/") :=
  rfl

/-- A session of the built-in commands over a vault with these notebooks. -/
def shelf (names : List String) : Session Desk :=
  { Completion.workSession with
    registry := registry Desk.services "/"
    state := ⟨Vault.withNotebooks (names.map .text), Completion.workSession.state.now⟩ }

/-- A panel that has shown nothing yet. -/
def newPanel : Panel (Hooks Desk) :=
  { settings := {} }

/-- For an argument of the command for notebooks a new panel shows the names that hold all arguments put
together. -/
theorem settled_shelf {names : List String}
    (hnames : (shelf names).state.vault.notebooks = names.map .named) {text : String} {args : List String}
    (hdraft : Draft.read text newPanel.settings.marker = .arguments "notebook" args) (hargs : args ≠ [])
    (hcurrent : (Draft.current args).isEmpty = false) {values : List String}
    (hvalues : (names.filter fun name =>
      occursIn (lower (" ".intercalate args)) (lower name)).take offerCap = values) :
    newPanel.settled true text (shelf names) (shelf names) =
      ((newPanel.renew text).showArguments (notebook Desk.services "/")).install
        (notebook Desk.services "/") values := by
  have hcommand : (shelf names).registry.resolve? "notebook" newPanel.settings.marker =
      some (notebook Desk.services "/") := resolve?_notebook
  have hoffered := offered_notebook hnames "/" hargs
  rw [hvalues] at hoffered
  exact Panel.settled_of_arguments hdraft (by decide) hcommand hcurrent hoffered hoffered fun _ _ _ => rfl

/-- The second of two notebooks is suggested for the beginning of its name, and can be accepted. -/
theorem side_projects_accepted :
    let session := shelf ["Work", "Side Projects"]
    let shown := newPanel.settled true "/notebook side" session session
    shown.suggestions.map (·.value) = ["Side Projects"] ∧
      ∃ line, shown.accept? = some line ∧ session.SwitchesTo line "Side Projects" := by
  intro session shown
  have hnames : session.state.vault.notebooks = ["Work", "Side Projects"].map .named := rfl
  have hquote : ∀ c ∈ "/notebook side".toList, Line.isQuote c = false := by simp [Line.isQuote]
  have hdraft : Draft.read "/notebook side" newPanel.settings.marker = .arguments "notebook" ["side"] := by
    decide
  have hshown : shown = ((newPanel.renew "/notebook side").showArguments
      (notebook Desk.services "/")).install (notebook Desk.services "/") ["Side Projects"] :=
    settled_shelf hnames hdraft (List.cons_ne_nil _ _) (by decide) (by decide +kernel)
  have hcommand : shown.command? = some (notebook Desk.services "/") := congrArg Panel.command? hshown
  have hsuggestion : shown.suggestions[0]? =
      some ⟨"Side Projects", notebook Desk.services "/", .arguments⟩ :=
    congrArg (fun panel : Panel (Hooks Desk) => panel.suggestions[0]?) hshown
  obtain ⟨line, haccept, hiff⟩ :=
    accepted_notebook_is_active_iff rfl hnames rfl true hquote hcommand 0 _ hsuggestion
  have hfirst : ["Work", "Side Projects"].find? (fun name => lower name == lower "Side Projects") =
      some "Side Projects" := by decide +kernel
  exact ⟨congrArg (fun panel : Panel (Hooks Desk) => panel.suggestions.map (·.value)) hshown, line, haccept,
    hiff.2 ⟨⟨"notebook", "side", by decide⟩, ⟨by simp [Line.isQuote], by decide⟩, hfirst⟩⟩

/-- For the beginning of two words the notebook is suggested as well, but the text that is made keeps the
first of them, and no notebook has that name. -/
theorem first_word_kept :
    let session := shelf ["Side Projects"]
    let text := "/notebook side pro"
    let shown := newPanel.settled true text session session
    (∀ c ∈ text.toList, Line.isQuote c = false) ∧ shown.mode = .arguments ∧
      shown.command? = some (notebook Desk.services "/") ∧
      shown.suggestions.map (·.value) = ["Side Projects"] ∧
        ∃ line, shown.accept? = some line ∧ line = "/notebook side Side Projects " ∧
          ¬ session.SwitchesTo line "Side Projects" := by
  intro session text shown
  have hnames : session.state.vault.notebooks = ["Side Projects"].map .named := rfl
  have hdraft : Draft.read text newPanel.settings.marker = .arguments "notebook" ["side", "pro"] := by
    decide
  have hshown : shown = ((newPanel.renew text).showArguments (notebook Desk.services "/")).install
      (notebook Desk.services "/") ["Side Projects"] :=
    settled_shelf hnames hdraft (List.cons_ne_nil _ _) (by decide) (by decide +kernel)
  clear_value shown
  have haccept : shown.accept? = some "/notebook side Side Projects " := by
    rw [hshown]
    decide
  have hparse : Line.parse "/notebook side Side Projects " session.marker =
      ⟨"notebook", ["side", "Side", "Projects"]⟩ := by decide
  refine ⟨by simp [text, Line.isQuote], congrArg Panel.mode hshown, congrArg Panel.command? hshown,
    congrArg (fun panel : Panel (Hooks Desk) => panel.suggestions.map (·.value)) hshown, _, haccept, rfl, ?_⟩
  rw [Session.switchesTo_iff hnames hparse (by decide) resolve?_notebook]
  rintro ⟨-, hfound⟩
  exact absurd hfound (by decide +kernel)

end Builtin

end Jotter
