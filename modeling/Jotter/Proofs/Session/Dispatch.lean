import Jotter.Builtin.Clock
import Jotter.Proofs.Command.Owners
import Jotter.Proofs.Line.Draft
import Jotter.Proofs.Panel.Run
import Jotter.Proofs.Session.Trace

/-! Which command a line goes to. A line is dispatched to the command of which it calls hooks. The run of
a line looks its name up without a slash before it, whatever the marker of the session is, and the panel
looks up the name as it stands behind the marker. So the two agree on all names that do not begin with a
slash, and on another one iff the registry does not tell it from the name behind the slash. -/

namespace Jotter

open Text

variable {η σ : Type}

/-! ### A slash before a name -/

namespace Registry

/-- Whether a slash before a name makes no difference to who claims it. -/
def SlashBlind (registry : Registry η) (name : String) : Prop :=
  registry.owner? (lower (dropLead name "/")) = registry.owner? (lower name)

theorem slashBlind_of_not_startsWith (registry : Registry η) {name : String}
    (hname : startsWith name "/" = false) : registry.SlashBlind name := by
  rw [SlashBlind, dropLead_of_not_startsWith hname]

namespace WellFormed

variable {registry : Registry η}

/-- Commands of one name are the same. -/
theorem eq_of_name_eq (hregistry : registry.WellFormed) {command other : Command η}
    (hcommand : command ∈ registry.commands) (hother : other ∈ registry.commands)
    (hname : command.name = other.name) : command = other := by
  refine hregistry.owner_unique hcommand hother command.key_mem_names ?_
  rw [Command.key, hname]
  exact other.key_mem_names

end WellFormed

end Registry

/-! ### The panel -/

namespace Panel

/-- While an argument of a command is being typed, the panel is about the command of the name. -/
theorem update_of_draft (ask : Command η → List String → Answer) (panel : Panel η)
    (registry : Registry η) {text name : String} {args : List String} (hname : name ≠ "")
    (hargs : args ≠ [])
    (hfields : Line.draftFields? text panel.settings.marker = some (name :: args)) :
    let updated := (Id.run (panel.update (m := Id) ask registry text)).1
    updated.command? = registry.resolve? name panel.settings.marker ∧
      (updated.mode = .idle ↔ registry.resolve? name panel.settings.marker = none) := by
  have hdraft : Draft.read text panel.settings.marker = .arguments name args := by
    obtain ⟨arg, args, rfl⟩ := List.exists_cons_of_ne_nil hargs
    rw [Draft.read, hfields]
    rfl
  have hfocus : (panel.focus registry text).command? =
        registry.resolve? name panel.settings.marker ∧
      ((panel.focus registry text).mode = .idle ↔
        registry.resolve? name panel.settings.marker = none) := by
    have hempty : name.isEmpty = false := by simpa using hname
    have hmarker : (panel.renew text).settings = panel.settings := rfl
    simp only [focus, hdraft, present, hempty, hmarker]
    cases registry.resolve? name panel.settings.marker with
    | none => exact ⟨rfl, by simp [reset]⟩
    | some command => exact ⟨rfl, by simp [showArguments]⟩
  intro updated
  rcases update_cases ask panel registry text with
    hnone | ⟨request, hrequest, ⟨values, hnow⟩ | hlater⟩
  · rw [show updated = _ from congrArg Prod.fst hnone]
    exact hfocus
  · rw [show updated = _ from congrArg Prod.fst hnow]
    exact hfocus
  · rw [show updated = _ from congrArg Prod.fst hlater]
    exact hfocus

end Panel

/-! ### Dispatch -/

namespace Session

/-- The calls of hooks that a line makes. -/
def callsOf (session : Session σ) (raw : String) : List Call :=
  ((execute raw).run.run (session.watched [])).2.state.calls

/-- A line is dispatched to the command of which it calls hooks. -/
def Dispatches (session : Session σ) (raw : String) (command : Command (Hooks σ)) : Prop :=
  command ∈ session.registry.commands ∧ ∃ call ∈ session.callsOf raw, call.name = command.name

/-- A line is turned away for its name: it calls no hook and is told to be unknown. -/
def TurnsAway (session : Session σ) (raw : String) : Prop :=
  session.callsOf raw = [] ∧ ∃ result, ((execute raw).run.run session).1 = .ok result ∧
    result.rejection = some .unknownCommand

theorem course_callsOf (session : Session σ) (raw : String) :
    Course session.registry session.marker raw (session.callsOf raw)
      ((execute raw).run.run session).1 := by
  obtain ⟨more, hrun, hcourse, -⟩ := execute_watched raw session []
  have hcalls : session.callsOf raw = more := by
    rw [callsOf, hrun]
    rfl
  rw [hcalls]
  exact hcourse

/-- A line is dispatched to the command that its name is resolved to. -/
theorem dispatches_iff {session : Session σ} (hregistry : session.registry.WellFormed)
    {raw : String} {command : Command (Hooks σ)} :
    session.Dispatches raw command ↔
      session.registry.resolve? (Line.parse raw session.marker).name defaultMarker = some command := by
  have hcourse := session.course_callsOf raw
  constructor
  · rintro ⟨hcommand, call, hcall, hname⟩
    obtain ⟨-, other, hother, hcalled⟩ := hcourse.mem_calls hcall
    have hmem := (hregistry.resolve?_eq_some.1 hother).2.1
    rw [hregistry.eq_of_name_eq hcommand hmem (hname.symm.trans hcalled)]
    exact hother
  · intro hcommand
    refine ⟨(hregistry.resolve?_eq_some.1 hcommand).2.1, ?_⟩
    have hempty := Registry.not_isEmpty_of_resolve? hcommand
    generalize session.callsOf raw = calls, ((execute raw).run.run session).1 = outcome at hcourse ⊢
    cases hcourse with
    | unnamed hname => simp [hempty] at hname
    | unknown hname hnone => simp [hcommand] at hnone
    | checkFailed hname hother hcheck cause =>
        cases hcommand.symm.trans hother
        exact ⟨_, List.mem_cons_self, rfl⟩
    | turnedAway hname hother hcheck reason =>
        cases hcommand.symm.trans hother
        exact ⟨_, List.mem_cons_self, rfl⟩
    | called hname hother came =>
        cases hcommand.symm.trans hother
        exact ⟨_, List.mem_append_right _ List.mem_cons_self, rfl⟩

/-- A line is turned away for its name iff it has one that is not resolved. -/
theorem turnsAway_iff {session : Session σ} {raw : String} :
    session.TurnsAway raw ↔ (Line.parse raw session.marker).isEmpty = false ∧
      session.registry.resolve? (Line.parse raw session.marker).name defaultMarker = none := by
  have hcourse := session.course_callsOf raw
  rw [TurnsAway]
  generalize session.callsOf raw = calls, ((execute raw).run.run session).1 = outcome at hcourse ⊢
  cases hcourse with
  | unnamed hname => simp [hname, Result.rejected]
  | unknown hname hnone => simp [hname, hnone, unknownCommand, Result.rejected]
  | checkFailed hname hcommand hcheck cause => simp [hcommand]
  | turnedAway hname hcommand hcheck reason => simp [hcommand]
  | called hname hcommand came => simp [hcommand]

/-! ### Agreement -/

/-- The law that a line goes to the command that claims its name: trimmed, in lower case, and as it
stands behind the marker. -/
def GoesByName (session : Session σ) (raw : String) : Prop :=
  ∀ command, session.Dispatches raw command ↔ command ∈ session.registry.commands ∧
    lower (trim (Line.parse raw session.marker).name) ∈ command.names

/-- The law that a line goes where the panel points: to the command that the panel is about, or nowhere
if the panel is idle. -/
def FollowsPanel (session : Session σ) (raw : String) (panel : Panel (Hooks σ)) : Prop :=
  (∀ command, panel.command? = some command ↔ session.Dispatches raw command) ∧
    (panel.mode = .idle ↔ session.TurnsAway raw)

theorem dispatches_iff_owner? {session : Session σ} (hregistry : session.registry.WellFormed)
    {raw : String} {command : Command (Hooks σ)} :
    session.Dispatches raw command ↔
      session.registry.owner? (lower (dropLead (trim (Line.parse raw session.marker).name) "/")) =
        some command := by
  rw [dispatches_iff hregistry, hregistry.resolve?_eq_owner?]
  rfl

theorem goesByName_iff {session : Session σ} (hregistry : session.registry.WellFormed)
    (raw : String) :
    session.GoesByName raw ↔
      (trim (Line.parse raw session.marker).name = "" →
        ∀ command ∈ session.registry.commands, "" ∉ command.names) ∧
      session.registry.SlashBlind (trim (Line.parse raw session.marker).name) := by
  rw [GoesByName]
  simp only [dispatches_iff_owner? hregistry]
  generalize trim (Line.parse raw session.marker).name = name
  -- a blank name is not looked up, but a command may claim it
  by_cases hname : name = ""
  · subst hname
    have hblank : lower (dropLead "" "/") = "" := by decide
    have hlower : lower "" = "" := by decide
    have hblind : session.registry.SlashBlind "" :=
      session.registry.slashBlind_of_not_startsWith (by decide)
    simp [hblank, hlower, hblind, Registry.owner?]
  · have hlower : lower name ≠ "" := by rwa [ne_eq, lower_eq_empty]
    have howner : ∀ command, session.registry.owner? (lower name) = some command ↔
        command ∈ session.registry.commands ∧ lower name ∈ command.names := fun command =>
      hregistry.owner?_eq_some.trans (and_iff_right hlower)
    simp only [hname, false_implies, true_and, Registry.SlashBlind, ← howner]
    exact Option.ext_iff.symm

theorem followsPanel_iff {session : Session σ} (hregistry : session.registry.WellFormed)
    (hmarker : Configuration.isMarker session.marker = true) {ask : Command (Hooks σ) → List String → Answer}
    {panel : Panel (Hooks σ)} (hpanel : panel.settings.marker = session.marker) {text name : String}
    {args : List String} (hquote : ∀ c ∈ text.toList, Line.isQuote c = false)
    (hfields : Line.draftFields? text session.marker = some (name :: args)) (hname : name ≠ "")
    (hargs : args ≠ []) :
    session.FollowsPanel text (Id.run (panel.update (m := Id) ask session.registry text)).1 ↔
      session.registry.SlashBlind name := by
  obtain ⟨hblank, hunmarked, hparse⟩ := Line.name_of_draftFields? hmarker hfields
  have hparsed := hparse hquote hname
  have htrim : trim name = name := trim_eq_self hblank
  have hnormal : Registry.normalize name session.marker = lower name := by
    rw [Registry.normalize, htrim, dropLead_of_not_startsWith hunmarked]
  have hplain : Registry.normalize name defaultMarker = lower (dropLead name "/") := by
    rw [Registry.normalize, htrim]
    rfl
  have hfields' : Line.draftFields? text panel.settings.marker = some (name :: args) :=
    hpanel ▸ hfields
  obtain ⟨hcommand, hmode⟩ := Panel.update_of_draft ask panel session.registry hname hargs hfields'
  rw [hpanel, hregistry.resolve?_eq_owner?, hnormal] at hcommand hmode
  have hisEmpty : (Line.parse text session.marker).isEmpty = false := by
    rw [Invocation.isEmpty, hparsed]
    simpa using hname
  rw [FollowsPanel, hcommand, hmode, turnsAway_iff, hisEmpty, hparsed, hregistry.resolve?_eq_owner?,
    hplain]
  simp only [dispatches_iff_owner? hregistry, hparsed, htrim, true_and, Registry.SlashBlind]
  constructor
  · rintro ⟨hcommands, -⟩
    exact (Option.ext hcommands).symm
  · intro hblind
    rw [hblind]
    exact ⟨fun _ => Iff.rfl, Iff.rfl⟩

/-- With any commands that were registered and removed, a line goes to the command that claims its name
iff a slash before the name makes no difference to who claims it, and then it goes where the panel
points; a blank name goes nowhere, also if a command claims the empty name. A name that does not begin
with a slash has no difference to make, and if the slash is the marker no name behind it does. -/
theorem dispatch_by_name_iff (changes : List (Registry.Change (Hooks σ))) {marker : String}
    (hmarker : Configuration.isMarker marker = true) (history : History) (context : Context)
    (state : σ) :
    let registry : Registry (Hooks σ) := Registry.empty.run changes
    let session : Session σ := ⟨registry, history, marker, context, state⟩
    (∀ raw, session.GoesByName raw ↔
      (trim (Line.parse raw marker).name = "" → ∀ command ∈ registry.commands, "" ∉ command.names) ∧
        registry.SlashBlind (trim (Line.parse raw marker).name)) ∧
    (∀ (ask : Command (Hooks σ) → List String → Answer) (panel : Panel (Hooks σ))
      (text name : String) (args : List String), panel.settings.marker = marker →
      (∀ c ∈ text.toList, Line.isQuote c = false) →
      Line.draftFields? text marker = some (name :: args) → name ≠ "" → args ≠ [] →
        (session.FollowsPanel text (Id.run (panel.update (m := Id) ask registry text)).1 ↔
          registry.SlashBlind name) ∧
        (marker = "/" → registry.SlashBlind name)) ∧
    ∀ name, startsWith name "/" = false → registry.SlashBlind name := by
  intro registry session
  have hregistry : session.registry.WellFormed := Registry.wellFormed_empty.run changes
  refine ⟨goesByName_iff hregistry, ?_, fun name => registry.slashBlind_of_not_startsWith⟩
  intro ask panel text name args hpanel hquote hfields hname hargs
  refine ⟨followsPanel_iff hregistry hmarker hpanel hquote hfields hname hargs, ?_⟩
  rintro rfl
  exact registry.slashBlind_of_not_startsWith (Line.name_of_draftFields? hmarker hfields).2.1

/-- A session of one command, whose marker is not a slash. -/
def pingSession : Session Unit where
  registry := Registry.empty.run [.register (Builtin.ping "!") false]
  history := ⟨50, [], 1⟩
  marker := "!"
  context := {}
  state := ()

theorem wellFormed_pingSession : pingSession.registry.WellFormed :=
  Registry.wellFormed_empty.run _

/-- Both laws hold of a line whose name has no slash. -/
theorem dispatch_by_name_ping :
    let panel : Panel (Hooks Unit) := { settings := { marker := "!" } }
    Configuration.isMarker "!" = true ∧ pingSession.GoesByName "!ping x" ∧
      pingSession.FollowsPanel "!ping x"
        (Id.run (panel.update (m := Id) (fun _ _ => .silent) pingSession.registry "!ping x")).1 := by
  intro panel
  have hmarker : Configuration.isMarker "!" = true := by decide
  obtain ⟨hname, hpanel, hslash⟩ := dispatch_by_name_iff [.register (Builtin.ping "!") false]
    hmarker pingSession.history pingSession.context pingSession.state
  have hquote : ∀ c ∈ "!ping x".toList, Line.isQuote c = false :=
    fun c hc => Bool.eq_false_iff.2 (List.any_eq_false.1 (by decide) c hc)
  refine ⟨hmarker, (hname "!ping x").2 ⟨?_, hslash _ (by decide)⟩, ?_⟩
  · intro hblank
    exact absurd hblank (by decide)
  · exact (hpanel _ panel "!ping x" "ping" ["x"] rfl hquote (by decide) (by decide)
      (by decide)).1.2 (hslash _ (by decide))

/-- A slash behind another marker is dropped when the line is run, but not by the panel: the line goes
to a command while the panel shows that there is none. -/
theorem slash_behind_marker_dropped :
    let panel : Panel (Hooks Unit) := { settings := { marker := "!" } }
    let updated :=
      (Id.run (panel.update (m := Id) (fun _ _ => .silent) pingSession.registry "!/ping x")).1
    Line.draftFields? "!/ping x" "!" = some ["/ping", "x"] ∧
      pingSession.Dispatches "!/ping x" (Builtin.ping "!") ∧ updated.mode = .idle ∧
      ¬ pingSession.GoesByName "!/ping x" ∧ ¬ pingSession.FollowsPanel "!/ping x" updated := by
  intro panel updated
  have hdispatch : pingSession.Dispatches "!/ping x" (Builtin.ping "!") :=
    (dispatches_iff wellFormed_pingSession).2 rfl
  have hfields : Line.draftFields? "!/ping x" "!" = some ["/ping", "x"] := by decide
  have hnone : pingSession.registry.resolve? "/ping" "!" = none := rfl
  have hidle : updated.mode = .idle :=
    (Panel.update_of_draft (fun _ _ => .silent) panel pingSession.registry (by decide) (by decide)
      hfields).2.2 hnone
  refine ⟨hfields, hdispatch, hidle, ?_, ?_⟩
  · intro hlaw
    exact absurd ((hlaw _).1 hdispatch).2 (by decide)
  · intro hlaw
    have hunknown := (turnsAway_iff.1 (hlaw.2.1 hidle)).2
    cases hunknown

end Session

end Jotter
