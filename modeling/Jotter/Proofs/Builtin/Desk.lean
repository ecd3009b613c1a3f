import Jotter.Proofs.Builtin.Effect
import Jotter.Proofs.Schedule.Due

/-! What the built-in commands come to at a desk whose notebooks have texts for names: each handler that
asks the vault is told by one equation. -/

namespace Jotter

/-- A notebook that is known by a text. -/
def Notebook.named (name : String) : Notebook :=
  ⟨.text name, .text name⟩

/-- The names of a vault that was furnished with texts for names, whatever else was done in it. -/
theorem Vault.notebooks_run {vault : Vault} {names : List String}
    (hvault : vault.notebooks = names.map .named) {changes : List Vault.Change}
    (hlabels : ∀ label, .notebook label ∈ changes → ∃ name, label = .text name) :
    ∃ more, (vault.run changes).notebooks = (names ++ more).map .named := by
  induction changes generalizing vault names with
  | nil => exact ⟨[], by rw [List.append_nil]; exact hvault⟩
  | cons change changes ih =>
      have hrest : ∀ label, Change.notebook label ∈ changes → ∃ name, label = .text name :=
        fun label hlabel => hlabels label (List.mem_cons_of_mem _ hlabel)
      cases change with
      | notebook label =>
          obtain ⟨name, rfl⟩ := hlabels label List.mem_cons_self
          have hadded : (vault.addNotebook (.text name)).notebooks = (names ++ [name]).map .named := by
            rw [addNotebook, hvault, List.map_append]
            rfl
          obtain ⟨more, hmore⟩ := ih hadded hrest
          exact ⟨name :: more, by rw [← List.append_cons] at hmore; exact hmore⟩
      | activate id =>
          refine ih ?_ hrest
          rw [Vault.change]
          cases hactive : vault.setActive id with
          | error failure => exact hvault
          | ok changed =>
              obtain ⟨-, rfl⟩ := setActive_eq_ok.1 hactive
              exact hvault
      | note now notebook content => exact ih hvault hrest
      | reminder message dueAt notebook => exact ih hvault hrest

namespace Builtin

/-! ### Notebooks -/

theorem findNotebook?_named (wanted : String) (names : List String) :
    findNotebook? wanted (names.map .named) =
      .ok ((names.find? fun name => Text.lower name == Text.lower wanted).map .named) := by
  induction names with
  | nil => rfl
  | cons name names ih =>
      rw [List.map_cons, findNotebook?]
      change (if Text.lower name == Text.lower wanted then _ else _) = _
      rw [List.find?_cons]
      cases Text.lower name == Text.lower wanted with
      | true => rfl
      | false => exact ih

theorem mapM_nameText_named (names : List String) :
    (names.map Notebook.named).mapM nameText = .ok names := by
  induction names with
  | nil => rfl
  | cons name names ih =>
      rw [List.map_cons, List.mapM_cons, ih]
      rfl

theorem similarNotebooks_named (names : List String) (wanted : String) :
    similarNotebooks (names.map .named) wanted =
      .ok (names.filter fun name => Text.occursIn (Text.lower wanted) (Text.lower name)) := by
  rw [similarNotebooks, mapM_nameText_named]
  rfl

theorem setActive_named {vault : Vault} {names : List String}
    (hvault : vault.notebooks = names.map .named) {name : String} (hname : name ∈ names) :
    vault.setActive (.text name) = .ok { vault with active := .text name } := by
  rw [Vault.setActive_eq_ok]
  refine ⟨?_, rfl⟩
  rw [hvault, List.any_map, List.any_eq_true]
  exact ⟨name, hname, by simp [Notebook.named, Setting.sameAs]⟩

/-- The first name that is the wanted one in some case becomes the active notebook; if there is none, the
failure tells the names like it. -/
theorem switchNotebook_run {scene : Scene Desk} {names : List String}
    (hnames : scene.state.vault.notebooks = names.map .named) (args : List String) :
    (switchNotebook Desk.services args).run.run scene =
      match names.find? fun name => Text.lower name == Text.lower (" ".intercalate args) with
      | none =>
        (.ok (.failed (notebookMissing (names.filter fun name =>
          Text.occursIn (Text.lower (" ".intercalate args)) (Text.lower name))
            (" ".intercalate args))), scene)
      | some name =>
        (.ok { success := true
               message := some ("Switched to notebook: " ++ name)
               clearInput := true },
          { scene with
            context := { scene.context with notebook := .text name }
            state := { scene.state with vault := { scene.state.vault with active := .text name } } }) := by
  have hlist : (Action.onState Desk.services.listNotebooks).run.run scene =
      (.ok scene.state.vault.notebooks, scene) := rfl
  have hfind := findNotebook?_named (" ".intercalate args) names
  have hsimilar := similarNotebooks_named names (" ".intercalate args)
  rw [← hnames] at hfind hsimilar
  rw [switchNotebook, Attempt.run_bind, hlist]
  dsimp only
  rw [Attempt.run_bind, Attempt.ofExcept_run, hfind]
  cases hfound : names.find? fun name => Text.lower name == Text.lower (" ".intercalate args) with
  | none =>
      dsimp only [Option.map_none]
      rw [Attempt.run_bind, Attempt.ofExcept_run, hsimilar]
      rfl
  | some name =>
      have hactive := setActive_named hnames (List.mem_of_find?_eq_some hfound)
      have hswitch : (Action.onState (Desk.services.setActiveNotebook (.text name))).run.run scene =
          (.ok (), { scene with
            state := { scene.state with vault := { scene.state.vault with active := .text name } } }) := by
        rw [Action.onState, Attempt.onPart_run, Desk.services, Attempt.run_bind, Attempt.get_run]
        dsimp only
        rw [hactive]
        rfl
      dsimp only [Option.map_some]
      rw [Attempt.run_bind, show (Notebook.named name).id = .text name from rfl, hswitch]
      rfl

/-! ### Notes -/

/-- The notes that a search looks for. -/
def found (vault : Vault) (args : List String) : List Note :=
  match SearchQuery.ofArguments args with
  | .tag name => vault.notesWithTag name
  | .text query => vault.notesWithText query

/-- A search tells how many notes there are and changes nothing. -/
theorem searchNotes_run (args : List String) (scene : Scene Desk) :
    (searchNotes Desk.services args).run.run scene =
      (.ok { success := true
             message := some (searchMessage (found scene.state.vault args).length (" ".intercalate args))
             clearInput := true }, scene) := by
  have hcontext : Action.context.run.run scene = (.ok scene.context, scene) := rfl
  rw [searchNotes, Attempt.run_bind, hcontext, found]
  dsimp only
  cases SearchQuery.ofArguments args <;> rfl

/-- The names that `search` goes by, as they are looked up. -/
theorem resolve?_search {services : Services σ} {marker name : String}
    (hname : Registry.normalize name defaultMarker ∈ ["search", "find", "s"]) :
    (registry services marker).resolve? name defaultMarker = some (search services marker) := by
  obtain ⟨hregistry, hcommands⟩ := registry_spec services marker
  have hnames : (search services marker).names = ["search", "find", "s"] := by
    change ["search", "find", "s"].map Text.lower = _
    decide
  rw [hregistry.resolve?_eq_some, hcommands, hnames]
  refine ⟨fun hempty => ?_, by simp [all], hname⟩
  rw [hempty] at hname
  exact absurd hname (by decide)

/-- A line that searches tells how many notes there are. -/
theorem execute_search {session : Session Desk} {marker raw name : String} {args : List String}
    (hregistry : session.registry = registry Desk.services marker) (hmarker : session.marker = marker)
    (hparse : Line.parse raw marker = ⟨name, args⟩)
    (hname : Registry.normalize name defaultMarker ∈ ["search", "find", "s"]) (hargs : args ≠ []) :
    ((Session.execute raw).run.run session).1 =
      .ok { success := true
            message := some
              (searchMessage (found session.state.vault args).length (" ".intercalate args))
            clearInput := true } := by
  have hcommand : session.registry.resolve? name defaultMarker = some (search Desk.services marker) := by
    rw [hregistry, resolve?_search hname]
  have hcalled : (⟨name, args⟩ : Invocation).isEmpty = false := by
    rw [Invocation.isEmpty, ← Bool.not_eq_true, String.isEmpty_iff]
    rintro rfl
    exact absurd hname (by decide)
  have hvalid : (Session.validate (search Desk.services marker) args).run.run session =
      (.ok .valid, session) := by
    cases args with
    | nil => exact absurd rfl hargs
    | cons arg args => rfl
  have hsearch := searchNotes_run args session.scene
  rw [← hmarker] at hparse
  rw [Session.execute_of_valid hparse hcalled hcommand hvalid, Session.runHandler_run, Session.run_run]
  dsimp only [search]
  rw [hsearch]
  rfl

/-! ### Reminders -/

/-- A reminder whose time is understood and can be told is stored, in the notebook of the context. -/
theorem setReminder_run {scene : Scene Desk} {time : String} {due : Moment} {dueAt : Int} {told : String}
    (hdue : dueTime time scene.state.now = .ok (some due)) (hat : due.epochMillis = .ok dueAt)
    (htold : dueText due scene.state.now = .ok told) (words : List String) :
    (setReminder Desk.services (time :: words)).run.run scene =
      (.ok { success := true
             message := some ("Reminder set: \"" ++ " ".intercalate words ++ "\" - " ++ told)
             clearInput := true },
        { scene with
          state := { scene.state with
            vault := (scene.state.vault.addReminder (" ".intercalate words) dueAt
              scene.context.notebook).2 } }) := by
  have htime : (firstArgument (time :: words) : Action Desk String).run.run scene = (.ok time, scene) :=
    rfl
  have hnow : Desk.services.clock scene.state = scene.state.now := rfl
  rw [setReminder, Attempt.run_bind, Attempt.get_run]
  dsimp only
  rw [Attempt.run_bind, htime, hnow]
  dsimp only
  rw [Attempt.run_bind, Attempt.ofExcept_run, hdue]
  have hcontext : Action.context.run.run scene = (.ok scene.context, scene) := rfl
  dsimp only
  -- the text stays closed, so that no step below looks into it
  generalize dueText due scene.state.now = came at htold ⊢
  subst htold
  rw [Attempt.run_bind, hcontext]
  dsimp only
  rw [Attempt.run_bind, Attempt.ofExcept_run, hat]
  dsimp only
  rw [Attempt.run_bind]
  have hstore : (Action.onState (Desk.services.createReminder (" ".intercalate words) dueAt
      scene.context.notebook)).run.run scene = (.ok (scene.state.vault.addReminder
        (" ".intercalate words) dueAt scene.context.notebook).1, { scene with
          state := { scene.state with
            vault := (scene.state.vault.addReminder (" ".intercalate words) dueAt
              scene.context.notebook).2 } }) := rfl
  rw [show (time :: words).drop 1 = words from rfl, hstore]
  dsimp only
  rw [Attempt.run_bind, Attempt.ofExcept_run]
  rfl

end Builtin

end Jotter
