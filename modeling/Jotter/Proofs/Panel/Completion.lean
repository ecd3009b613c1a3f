import Mathlib.Data.List.Forall2
import Mathlib.Logic.Function.Iterate
import Jotter.Builtin.Notebook
import Jotter.Panel.Completion
import Jotter.Proofs.Command.Names
import Jotter.Proofs.Console.Drawn
import Jotter.Proofs.Line.Draft
import Jotter.Proofs.Panel.Suggester
import Jotter.Proofs.Session.Run

/-! The completions at a cursor and the panel for the text before it. They are the same list: each
completion, put in at the cursor, makes the text that the panel makes when the entry of its place is
accepted. Only the margin before a command is kept by a completion and dropped by the panel. -/

namespace Jotter

open Text

variable {η σ : Type}

/-- What the provider of a command comes to in a session. -/
def Session.offered (session : Session σ) (command : Command (Hooks σ)) (args : List String) : Offer :=
  ((Session.offer command args).run.run session).1

theorem Session.offered_of_none {command : Command (Hooks σ)} (hprovider : command.hooks.provider = none)
    (args : List String) (session : Session σ) : session.offered command args = .ok none := by
  rw [Session.offered, Session.offer, hprovider]
  rfl

/-- A provider that answers at once says what it comes to, and a failure as silence. -/
theorem Session.ask_run (canWait : Bool) (command : Command (Hooks σ)) (args : List String)
    (session : Session σ) :
    ((Session.ask canWait command args).run session).1 =
      match command.hooks.provider with
      | none => .silent
      | some provider =>
        if provider.deferred then (if canWait then .later else .silent)
        else
          match session.offered command args with
          | .ok values => .now (values.getD [])
          | .error _ => .silent := by
  rw [Session.ask, Session.offered, Session.offer]
  cases command.hooks.provider with
  | none => rfl
  | some provider =>
      dsimp only
      split
      · rfl
      · rw [StateT.run_bind]
        generalize (Session.run (provider.offer args)).run.run session = ended
        obtain ⟨failure | values, changed⟩ := ended <;> rfl

/-! ### The panel with its values -/

namespace Panel

/-- The panel after a change of the text, with the values for it put in. `asked` is the session when the
text changes; a request that has to wait is answered in the session `answered`. -/
def settled (panel : Panel (Hooks σ)) (canWait : Bool) (text : String)
    (asked answered : Session σ) : Panel (Hooks σ) :=
  let (updated, request?) :=
    ((panel.update (Session.ask canWait) asked.registry text).run asked).1
  match request? with
  | none => updated
  | some request =>
    (updated.deliver request (answered.offered request.command request.args).values).1

theorem settled_eq (panel : Panel (Hooks σ)) (canWait : Bool) (text : String)
    (asked answered : Session σ) :
    panel.settled canWait text asked answered =
      match (panel.focus asked.registry text).request? with
      | none => panel.focus asked.registry text
      | some request =>
        match ((Session.ask canWait request.command request.args).run asked).1 with
        | .silent => panel.focus asked.registry text
        | .now values => (panel.focus asked.registry text).install request.command values
        | .later => (panel.focus asked.registry text).install request.command
            (answered.offered request.command request.args).values := by
  rw [settled, update_run, update_id]
  cases hrequest : (panel.focus asked.registry text).request? with
  | none => rfl
  | some request =>
      dsimp only
      cases ((Session.ask canWait request.command request.args).run asked).1 with
      | silent => rfl
      | now values => rfl
      | later => exact congrArg Prod.fst (if_pos (request?_eq_some hrequest).1)

theorem settled_of_request?_eq_none {panel : Panel (Hooks σ)} {text : String} {asked : Session σ}
    (hrequest : (panel.focus asked.registry text).request? = none) (canWait : Bool)
    (answered : Session σ) :
    panel.settled canWait text asked answered = panel.focus asked.registry text := by
  rw [settled_eq, hrequest]

/-- The parts of a panel that begin anew when its text changes, whatever it is to show. -/
structure Renewed (panel : Panel η) (settings : PanelSettings) (text : String) : Prop where
  settings_eq : panel.settings = settings
  text_eq : panel.text = text
  index_eq : panel.index = 0
  dismissed_eq : panel.dismissed = false

theorem renewed_focus (panel : Panel η) (registry : Registry η) (text : String) :
    Renewed (panel.focus registry text) panel.settings text := by
  rw [focus_eq]
  exact ⟨rfl, rfl, rfl, rfl⟩

theorem renewed_settled (panel : Panel (Hooks σ)) (canWait : Bool) (text : String)
    (asked answered : Session σ) :
    Renewed (panel.settled canWait text asked answered) panel.settings text := by
  have hfocus := renewed_focus panel asked.registry text
  rw [settled_eq]
  split
  · exact hfocus
  · split
    · exact hfocus
    · exact ⟨hfocus.settings_eq, hfocus.text_eq, rfl, hfocus.dismissed_eq⟩
    · exact ⟨hfocus.settings_eq, hfocus.text_eq, rfl, hfocus.dismissed_eq⟩

/-- Nothing is shown for an argument before its provider has answered. -/
theorem suggestions_focus {panel : Panel η} {text name : String} {args : List String}
    (hdraft : Draft.read text panel.settings.marker = .arguments name args) (registry : Registry η) :
    (panel.focus registry text).suggestions = [] := by
  rw [focus, hdraft, present]
  repeat' split
  all_goals rfl

/-- A panel asks for nothing without a known command or between its arguments. -/
theorem request?_focus {panel : Panel η} {registry : Registry η} {text name : String}
    {args : List String} (hdraft : Draft.read text panel.settings.marker = .arguments name args)
    (hnothing : name.isEmpty = true ∨ registry.resolve? name panel.settings.marker = none ∨
      (Draft.current args).isEmpty = true) :
    (panel.focus registry text).request? = none := by
  have hrenewed := renewed_focus panel registry text
  rw [request?, hrenewed.text_eq, hrenewed.settings_eq, hdraft]
  rcases hnothing with hname | hcommand | hcurrent
  · rw [focus, hdraft, present, hname, if_pos rfl]
    rfl
  · have hidle : (panel.focus registry text).command? = none := by
      rw [focus, hdraft, present, show (panel.renew text).settings = panel.settings from rfl, hcommand]
      split <;> rfl
    rw [hidle]
  · cases (panel.focus registry text).command? with
    | none => rfl
    | some command => exact if_pos hcurrent

theorem focus_of_arguments {panel : Panel η} {registry : Registry η} {text name : String}
    {args : List String} {command : Command η}
    (hdraft : Draft.read text panel.settings.marker = .arguments name args)
    (hname : name.isEmpty = false)
    (hcommand : registry.resolve? name panel.settings.marker = some command) :
    panel.focus registry text = (panel.renew text).showArguments command := by
  have hmarker : (panel.renew text).settings = panel.settings := rfl
  rw [focus, hdraft, present, hname, if_neg Bool.false_ne_true, hmarker, hcommand]

theorem request?_showArguments {panel : Panel η} {text name : String} {args : List String}
    (hdraft : Draft.read text panel.settings.marker = .arguments name args)
    (hcurrent : (Draft.current args).isEmpty = false) (command : Command η) :
    ((panel.renew text).showArguments command).request? =
      some ⟨panel.generation + 1, command, args⟩ := by
  simp only [request?, showArguments, renew, hdraft, hcurrent]
  rfl

/-- While an argument of a command is being typed, the panel shows what its provider offers. -/
theorem settled_of_arguments {panel : Panel (Hooks σ)} {canWait : Bool} {text name : String}
    {args : List String} {asked answered : Session σ} {command : Command (Hooks σ)} {offer : Offer}
    (hdraft : Draft.read text panel.settings.marker = .arguments name args)
    (hname : name.isEmpty = false)
    (hcommand : asked.registry.resolve? name panel.settings.marker = some command)
    (hcurrent : (Draft.current args).isEmpty = false)
    (hasked : asked.offered command args = offer) (hanswered : answered.offered command args = offer)
    (hwait : ∀ provider, command.hooks.provider = some provider → provider.deferred = true →
      canWait = true) :
    panel.settled canWait text asked answered =
      ((panel.renew text).showArguments command).install command offer.values := by
  have hfocus := focus_of_arguments hdraft hname hcommand
  have hnothing : ((panel.renew text).showArguments command).install command [] =
      (panel.renew text).showArguments command := by
    rw [install, capped_nil]
    rfl
  rw [settled_eq, hfocus, request?_showArguments hdraft hcurrent]
  dsimp only
  rw [Session.ask_run, hasked, hanswered]
  cases hprovider : command.hooks.provider with
  | none =>
      -- nothing is put in, which is the same as to put in no values
      have hoffer : offer = .ok none := hasked.symm.trans (Session.offered_of_none hprovider args asked)
      rw [hoffer]
      exact hnothing.symm
  | some provider =>
      dsimp only
      cases hdeferred : provider.deferred with
      | true =>
          rw [hwait provider hprovider hdeferred]
          rfl
      | false =>
          cases offer with
          | error failure => exact hnothing.symm
          | ok values => rfl

/-- The text that accepting a suggestion makes of a text. -/
def accepted (marker text : String) (suggestion : Suggestion η) : String :=
  match suggestion.kind with
  | .commandName => marker ++ suggestion.command.name ++ " "
  | _ => withoutLastToken text ++ suggestion.value ++ " "

/-- A panel that was not dismissed can be seen while it has an entry, wherever its highlight is. -/
theorem visible_of_lt {panel : Panel η} (hdismissed : panel.dismissed = false) {i : Nat}
    (hi : i < panel.suggestions.length) : ({ panel with index := i } : Panel η).visible = true := by
  have hne : panel.suggestions ≠ [] := List.ne_nil_of_length_pos (Nat.zero_lt_of_lt hi)
  simp [visible, hdismissed, hne]

theorem moveDown_iterate {panel : Panel η} (hindex : panel.index = 0)
    (hdismissed : panel.dismissed = false) {i : Nat} (hi : i < panel.suggestions.length) :
    moveDown^[i] panel = { panel with index := i } := by
  induction i with
  | zero => rw [Function.iterate_zero_apply, ← hindex]
  | succ i ih =>
      have hvisible := visible_of_lt hdismissed (Nat.lt_of_succ_lt hi)
      rw [Function.iterate_succ_apply', ih (Nat.lt_of_succ_lt hi), moveDown, if_pos hvisible]
      simp only [Nat.mod_eq_of_lt hi]

/-- Moving down from the first entry leads to each of the others, to be accepted there. -/
theorem accept?_iterate {panel : Panel η} (hindex : panel.index = 0)
    (hdismissed : panel.dismissed = false) {i : Nat} {suggestion : Suggestion η}
    (hsuggestion : panel.suggestions[i]? = some suggestion) :
    (moveDown^[i] panel).accept? = some (accepted panel.settings.marker panel.text suggestion) := by
  obtain ⟨hi, -⟩ := List.getElem?_eq_some_iff.1 hsuggestion
  have hvisible := visible_of_lt hdismissed hi
  rw [moveDown_iterate hindex hdismissed hi, accept?, selected?, if_pos hvisible, hsuggestion]
  rfl

end Panel

/-! ### The completions -/

namespace Completion

theorem complete_run (theme : Theme) (settings : PanelSettings) (canWait : Bool) (text : String)
    (session : Session σ) :
    ((complete theme settings canWait text).run.run session).1 =
      match Draft.read text settings.marker with
      | .none => .ok []
      | .name lead => forName theme settings session.registry lead
      | .arguments name args =>
        if name.isEmpty || (Draft.current args).isEmpty then .ok []
        else
          match session.registry.resolve? name settings.marker with
          | none => .ok []
          | some command =>
            match command.hooks.provider with
            | none => .ok []
            | some provider =>
              if provider.deferred && !canWait then .ok []
              else .ok (forArgument settings args (session.offered command args).values) := by
  rw [complete, Attempt.run_bind, Attempt.get_run]
  dsimp only
  cases Draft.read text settings.marker with
  | none => rfl
  | name lead => exact congrArg Prod.fst (Attempt.ofExcept_run _ session)
  | arguments name args =>
      dsimp only
      split
      · rfl
      cases session.registry.resolve? name settings.marker with
      | none => rfl
      | some command =>
          dsimp only
          cases command.hooks.provider with
          | none => rfl
          | some provider =>
              dsimp only
              split <;> rfl

/-- The text that a completion makes of the text before the cursor. -/
def insert (completion : Completion) (before : String) : String :=
  .ofList (before.toList.take (before.length + completion.start).toNat) ++ completion.text

/-- A completion lies before the cursor and makes the text that accepting a suggestion makes, up to the
margin before a name. -/
structure Matches (marker before : String) (suggestion : Suggestion η) (completion : Completion) :
    Prop where
  start_le : completion.start ≤ 0
  le_length : -completion.start ≤ before.length
  insert_eq : Panel.accepted marker before suggestion =
    if suggestion.kind = .commandName then trimLeft (completion.insert before)
    else completion.insert before

theorem mapM_eq_ok {α β ε : Type} {f : α → Except ε β} {P : α → β → Prop} {entries : List α}
    (hentries : ∀ entry ∈ entries, ∃ value, f entry = .ok value ∧ P entry value) :
    ∃ values, entries.mapM f = .ok values ∧ List.Forall₂ P entries values := by
  induction entries with
  | nil => exact ⟨[], rfl, .nil⟩
  | cons entry entries ih =>
      rw [List.forall_mem_cons] at hentries
      obtain ⟨⟨value, hvalue, hmatch⟩, hrest⟩ := hentries
      obtain ⟨values, hvalues, hmatches⟩ := ih hrest
      refine ⟨value :: values, ?_, .cons hmatch hmatches⟩
      rw [List.mapM_cons, hvalue, hvalues]
      rfl

theorem insert_of_append {completion : Completion} {before : String} {kept replaced : List Char}
    (hbefore : before.toList = kept ++ replaced) (hstart : completion.start = -(replaced.length : Int)) :
    (completion.insert before).toList = kept ++ completion.text.toList := by
  have hlength := congrArg List.length hbefore
  rw [String.length_toList, List.length_append] at hlength
  have hkept : ((before.length : Int) + completion.start).toNat = kept.length := by omega
  rw [insert, hkept, hbefore, List.take_left, String.toList_append, String.toList_ofList]

/-- A completion that replaces the characters behind `kept`. -/
theorem bounds_of_append {completion : Completion} {before : String} {kept replaced : List Char}
    (hbefore : before.toList = kept ++ replaced) (hstart : completion.start = -(replaced.length : Int)) :
    completion.start ≤ 0 ∧ -completion.start ≤ before.length := by
  have hlength := congrArg List.length hbefore
  rw [String.length_toList, List.length_append] at hlength
  omega

/-- A completion of a name replaces the marker and what stands behind it. -/
theorem matches_name {marker before lead : String} (hmarker : Configuration.isMarker marker = true)
    (hdraft : Draft.read before marker = .name lead) {command : Command η} {completion : Completion}
    (htext : completion.text = marker ++ command.name ++ " ")
    (hstart : completion.start = -(lead.length + marker.length : Nat)) :
    Matches marker before ⟨command.name, command, .commandName⟩ completion := by
  obtain ⟨margin, hmargin, hbefore⟩ := Line.toList_of_name hdraft
  have hreplaced : completion.start = -((marker ++ lead).toList.length : Int) := by
    rw [hstart, String.length_toList, String.length_append, Nat.add_comm]
  obtain ⟨hstartLe, hleLength⟩ := bounds_of_append hbefore hreplaced
  refine ⟨hstartLe, hleLength, ?_⟩
  rw [if_pos rfl]
  apply String.toList_injective
  obtain ⟨c, hc, hblank⟩ := Configuration.exists_of_isMarker hmarker
  have hhead : ∀ d ∈ completion.text.toList.head?, isBlank d = false := by
    rw [htext, String.toList_append, String.toList_append, hc]
    rintro d ⟨⟩
    exact hblank
  rw [toList_trimLeft, insert_of_append hbefore hreplaced, trimLeftChars_append hmargin,
    trimLeftChars_eq_self hhead, htext]
  rfl

/-- A completion of an argument replaces the last token. -/
theorem matches_value {marker before name : String} {args : List String}
    (hdraft : Draft.read before marker = .arguments name args) (command : Command η)
    (value : String) :
    Matches marker before ⟨value, command, .arguments⟩ (ofValue (Draft.current args) value) := by
  have hcurrent := Line.rtakeWhile_of_arguments hdraft
  have hbefore : before.toList =
      (Panel.withoutLastToken before).toList ++ (Draft.current args).toList := by
    rw [← hcurrent, Panel.withoutLastToken, String.toList_ofList]
    exact List.rdropWhile_append_rtakeWhile.symm
  have hstart : (ofValue (Draft.current args) value).start =
      -((Draft.current args).toList.length : Int) := by
    rw [String.length_toList]
    rfl
  obtain ⟨hstartLe, hleLength⟩ := bounds_of_append hbefore hstart
  refine ⟨hstartLe, hleLength, ?_⟩
  rw [if_neg nofun]
  apply String.toList_injective
  rw [insert_of_append hbefore hstart, Panel.accepted]
  simp [ofValue]

/-- The completions of a name are those of the commands that the panel lists. -/
theorem forName_matches (theme : Theme) {panel : Panel η} {before lead : String}
    {registry : Registry η} (hmarker : Configuration.isMarker panel.settings.marker = true)
    (hdraft : Draft.read before panel.settings.marker = .name lead)
    (hdrawn : ∀ command ∈ registry.matching lead,
      ∀ c ∈ (panel.settings.marker ++ command.name).toList, Drawn.isForbidden c = false) :
    ∃ completions, forName theme panel.settings registry lead = .ok completions ∧
      List.Forall₂ (Matches panel.settings.marker before)
        (panel.showNames registry lead).suggestions completions := by
  have hcommands : ∀ command ∈ capped panel.settings.commandCap (registry.matching lead),
      ∃ completion, ofCommand theme panel.settings.marker lead command = .ok completion ∧
        Matches panel.settings.marker before ⟨command.name, command, .commandName⟩ completion := by
    intro command hcommand
    have hlisted := (capped_sublist _ _).subset hcommand
    obtain ⟨drawn, hdraw⟩ := (Drawn.draw_eq_ok true nameColumn _).2 (hdrawn command hlisted)
    have hcompletion : ofCommand theme panel.settings.marker lead command = .ok
        { text := panel.settings.marker ++ command.name ++ " "
          start := -(lead.length + panel.settings.marker.length : Nat)
          note := command.description
          display := [⟨"fg:" ++ theme.categoryColor command.category, drawn⟩] } := by
      rw [ofCommand, hdraw]
      rfl
    exact ⟨_, hcompletion, matches_name hmarker hdraft rfl rfl⟩
  obtain ⟨completions, hcompletions, hmatches⟩ := mapM_eq_ok hcommands
  exact ⟨completions, hcompletions, List.forall₂_map_left_iff.2 hmatches⟩

/-- The completions of an argument are those of the values that the panel shows. -/
theorem forArgument_matches {panel : Panel η} {before name : String} {args : List String}
    (hdraft : Draft.read before panel.settings.marker = .arguments name args) (command : Command η)
    (values : List String) :
    List.Forall₂ (Matches panel.settings.marker before) (panel.install command values).suggestions
      (forArgument panel.settings args values) := by
  rw [forArgument, Panel.install, List.forall₂_map_left_iff, List.forall₂_map_right_iff,
    List.forall₂_same]
  exact fun value _ => matches_value hdraft command value

/-- The text before a cursor. -/
def textBefore (text : String) (cursor : Nat) : String :=
  .ofList (text.toList.take cursor)

theorem beforeCursor_eq {text : String} {cursor : Nat} (hcursor : cursor ≤ text.length) :
    beforeCursor text (some cursor) = .ok (textBefore text cursor) := by
  rw [beforeCursor, if_neg (by omega)]
  rfl

theorem length_textBefore {text : String} {cursor : Nat} (hcursor : cursor ≤ text.length) :
    (textBefore text cursor).length = cursor := by
  rw [textBefore, ← String.length_toList, String.toList_ofList, List.length_take,
    String.length_toList]
  exact Nat.min_eq_left hcursor

/-- The provider of the argument that is being typed comes to the same in three sessions: `asked`, where
the text of the panel changes, `answered`, where what it has asked for is answered later, and `read`,
where the completions are made. If it answers later, both the panel and the completions can wait. -/
structure Concord (marker before : String) (loop canWait : Bool) (asked answered read : Session σ) :
    Prop where
  registry_eq : asked.registry = read.registry
  offered_eq : ∀ name args command, Draft.read before marker = .arguments name args →
    read.registry.resolve? name marker = some command →
      asked.offered command args = read.offered command args ∧
        answered.offered command args = read.offered command args
  waited : ∀ name args command provider, Draft.read before marker = .arguments name args →
    read.registry.resolve? name marker = some command → command.hooks.provider = some provider →
      provider.deferred = true → loop = true ∧ canWait = true

/-- The completions of an argument are made of what its provider offers. -/
theorem complete_of_arguments (theme : Theme) {settings : PanelSettings} {canWait : Bool}
    {before name : String} {args : List String} {read : Session σ} {command : Command (Hooks σ)}
    (hdraft : Draft.read before settings.marker = .arguments name args)
    (hname : name.isEmpty = false) (hcurrent : (Draft.current args).isEmpty = false)
    (hcommand : read.registry.resolve? name settings.marker = some command)
    (hwait : ∀ provider, command.hooks.provider = some provider → provider.deferred = true →
      canWait = true) :
    ((complete theme settings canWait before).run.run read).1 =
      .ok (forArgument settings args (read.offered command args).values) := by
  rw [complete_run, hdraft]
  dsimp only
  rw [hname, hcurrent, hcommand, if_neg (by decide)]
  dsimp only
  cases hprovider : command.hooks.provider with
  | none =>
      rw [Session.offered_of_none hprovider, forArgument, Offer.values, Option.getD_none,
        capped_nil]
      rfl
  | some provider =>
      dsimp only
      rw [if_neg]
      intro hleft
      obtain ⟨hdeferred, hcannot⟩ := Bool.and_eq_true_iff.1 hleft
      rw [hwait provider hprovider hdeferred] at hcannot
      cases hcannot

theorem complete_of_nothing (theme : Theme) {settings : PanelSettings} {before name : String}
    {args : List String} {read : Session σ}
    (hdraft : Draft.read before settings.marker = .arguments name args)
    (hnothing : name.isEmpty = true ∨ read.registry.resolve? name settings.marker = none ∨
      (Draft.current args).isEmpty = true) (canWait : Bool) :
    ((complete theme settings canWait before).run.run read).1 = .ok [] := by
  rw [complete_run, hdraft]
  dsimp only
  split
  · rfl
  · rename_i hsomething
    rcases hnothing with hname | hcommand | hcurrent
    · exact absurd (by simp [hname]) hsomething
    · rw [hcommand]
    · exact absurd (by simp [hcurrent]) hsomething

/-- The completions and the suggestions of the panel are matched one by one, in order. -/
theorem complete_matches (theme : Theme) {panel : Panel (Hooks σ)} {before : String}
    {loop canWait : Bool} {asked answered read : Session σ}
    (hmarker : Configuration.isMarker panel.settings.marker = true)
    (hdrawn : ∀ lead, Draft.read before panel.settings.marker = .name lead →
      ∀ command ∈ read.registry.matching lead,
        ∀ c ∈ (panel.settings.marker ++ command.name).toList, Drawn.isForbidden c = false)
    (hconcord : Concord panel.settings.marker before loop canWait asked answered read) :
    ∃ completions,
      ((complete theme panel.settings canWait before).run.run read).1 = .ok completions ∧
      List.Forall₂ (Matches panel.settings.marker before)
        (panel.settled loop before asked answered).suggestions completions := by
  obtain ⟨hregistry, hoffered, hwaited⟩ := hconcord
  cases hdraft : Draft.read before panel.settings.marker with
  | none =>
      have hfocus : panel.focus asked.registry before = (panel.renew before).reset := by
        rw [Panel.focus, hdraft, Panel.present]
      rw [complete_run, hdraft, Panel.settled_of_request?_eq_none (by rw [hfocus]; rfl), hfocus]
      exact ⟨[], rfl, .nil⟩
  | name lead =>
      have hfocus : panel.focus asked.registry before =
          (panel.renew before).showNames asked.registry lead := by
        rw [Panel.focus, hdraft, Panel.present]
      rw [complete_run, hdraft, Panel.settled_of_request?_eq_none (by rw [hfocus]; rfl), hfocus,
        hregistry]
      exact forName_matches theme hmarker hdraft (hdrawn lead hdraft)
  | arguments name args =>
      -- nobody is asked without a name, for an unknown command or between two arguments
      by_cases hnothing : name.isEmpty = true ∨
          read.registry.resolve? name panel.settings.marker = none ∨ (Draft.current args).isEmpty = true
      · refine ⟨[], complete_of_nothing theme hdraft hnothing canWait, ?_⟩
        rw [← hregistry] at hnothing
        rw [Panel.settled_of_request?_eq_none (Panel.request?_focus hdraft hnothing),
          Panel.suggestions_focus hdraft]
        exact .nil
      · simp only [not_or, Bool.not_eq_true] at hnothing
        obtain ⟨hname, hknown, hcurrent⟩ := hnothing
        obtain ⟨command, hcommand⟩ := Option.ne_none_iff_exists'.1 hknown
        obtain ⟨hasked, hanswered⟩ := hoffered name args command hdraft hcommand
        have hwait : ∀ provider, command.hooks.provider = some provider → provider.deferred = true →
            loop = true ∧ canWait = true :=
          fun provider => hwaited name args command provider hdraft hcommand
        refine ⟨_, complete_of_arguments theme hdraft hname hcurrent hcommand
          fun provider hprovider hdeferred => (hwait provider hprovider hdeferred).2, ?_⟩
        rw [← hregistry] at hcommand
        rw [Panel.settled_of_arguments hdraft hname hcommand hcurrent hasked hanswered
          fun provider hprovider hdeferred => (hwait provider hprovider hdeferred).1]
        exact forArgument_matches hdraft command _

/-- At every cursor the completions are the suggestions of the panel for the text before it, one by one
and in order. Each completion replaces characters before the cursor; what comes of it is the text that
the panel makes when the suggestion of its place is highlighted and accepted, but the panel drops the
margin before a name. -/
theorem completions_agree_with_panel (theme : Theme) (panel : Panel (Hooks σ)) {text : String}
    {cursor : Nat} {loop canWait : Bool} {asked answered read : Session σ}
    (hmarker : Configuration.isMarker panel.settings.marker = true) (hcursor : cursor ≤ text.length)
    (hdrawn : ∀ lead, Draft.read (textBefore text cursor) panel.settings.marker = .name lead →
      ∀ command ∈ read.registry.matching lead,
        ∀ c ∈ (panel.settings.marker ++ command.name).toList, Drawn.isForbidden c = false)
    (hconcord : Concord panel.settings.marker (textBefore text cursor) loop canWait asked answered
      read) :
    let before := textBefore text cursor
    let shown := panel.settled loop before asked answered
    beforeCursor text (some cursor) = .ok before ∧
    ∃ completions,
      ((complete theme panel.settings canWait before).run.run read).1 = .ok completions ∧
      completions.length = shown.suggestions.length ∧
      ∀ (i : Nat) (completion : Completion) (suggestion : Suggestion (Hooks σ)),
        completions[i]? = some completion → shown.suggestions[i]? = some suggestion →
          0 ≤ -completion.start ∧ -completion.start ≤ cursor ∧
          (Panel.moveDown^[i] shown).accept? =
            some (if suggestion.kind = .commandName then trimLeft (completion.insert before)
              else completion.insert before) := by
  intro before shown
  obtain ⟨completions, hcomplete, hmatches⟩ := complete_matches theme hmarker hdrawn hconcord
  refine ⟨beforeCursor_eq hcursor, completions, hcomplete, hmatches.length_eq.symm, ?_⟩
  intro i completion suggestion hcompletion hsuggestion
  obtain ⟨hi, hithCompletion⟩ := List.getElem?_eq_some_iff.1 hcompletion
  obtain ⟨hj, hithSuggestion⟩ := List.getElem?_eq_some_iff.1 hsuggestion
  have hmatch : Matches panel.settings.marker before suggestion completion := by
    have hith := hmatches.get hj hi
    rwa [List.get_eq_getElem, List.get_eq_getElem, hithSuggestion, hithCompletion] at hith
  have hrenewed := panel.renewed_settled loop before asked answered
  refine ⟨by have := hmatch.start_le; omega, ?_, ?_⟩
  · have hlength := hmatch.le_length
    rwa [length_textBefore hcursor] at hlength
  · rw [Panel.accept?_iterate hrenewed.index_eq hrenewed.dismissed_eq hsuggestion,
      hrenewed.settings_eq, hrenewed.text_eq, hmatch.insert_eq]

/-- A session of the command for notebooks, over a vault with one of them, at the beginning of 2025. -/
def workSession : Session Desk where
  registry := Registry.empty.run [.register (Builtin.notebook Desk.services "/") false]
  history := ⟨50, [], 1⟩
  marker := "/"
  context := {}
  state := ⟨Vault.withNotebooks [.text "Work"], ⟨63871286400000000, some 0, by decide⟩⟩

/-- The completion of the beginning of a notebook, before other text. -/
theorem completions_agree_for_notebook :
    let panel : Panel (Hooks Desk) := { settings := {} }
    let before := textBefore "/notebook wo, later" 12
    let shown := panel.settled true before workSession workSession
    Concord "/" before true true workSession workSession workSession ∧
      shown.suggestions.map (·.value) = ["Work"] ∧
      ∃ completions,
        ((complete .standard panel.settings true before).run.run workSession).1 = .ok completions ∧
          completions.length = shown.suggestions.length := by
  intro panel before shown
  have hcursor : 12 ≤ "/notebook wo, later".length := by decide
  have hdraft : Draft.read before "/" = .arguments "notebook" ["wo"] := by decide
  have hconcord : Concord "/" before true true workSession workSession workSession :=
    ⟨rfl, fun _ _ _ _ _ => ⟨rfl, rfl⟩, fun _ _ _ _ _ _ _ _ => ⟨rfl, rfl⟩⟩
  have hdrawn : ∀ lead, Draft.read before panel.settings.marker = .name lead →
      ∀ command ∈ workSession.registry.matching lead,
        ∀ c ∈ (panel.settings.marker ++ command.name).toList, Drawn.isForbidden c = false := by
    intro lead hname
    cases hdraft.symm.trans hname
  obtain ⟨-, completions, hcomplete, hlength, -⟩ := completions_agree_with_panel .standard panel
    (by decide) hcursor hdrawn hconcord
  have hcommand : workSession.registry.resolve? "notebook" "/" =
      some (Builtin.notebook Desk.services "/") := rfl
  have hoffered : workSession.offered (Builtin.notebook Desk.services "/") ["wo"] =
      .ok (some ["Work"]) := rfl
  have hshown : shown.suggestions.map (·.value) = ["Work"] := by
    rw [show shown = _ from Panel.settled_of_arguments hdraft (by decide) hcommand (by decide) hoffered
      hoffered fun _ _ _ => rfl]
    rfl
  exact ⟨hconcord, hshown, completions, hcomplete, hlength⟩

end Completion

end Jotter
