import Jotter.Builtin.Set
import Jotter.Proofs.Command.Names
import Jotter.Proofs.Services.Room
import Jotter.Proofs.Vault.Growth

/-! What the built-in commands can do. Their names are all different, so each of them is registered. A
check changes nothing, and only that of a reminder can fail: when its time cannot be worked out. Over
collaborators that are faithful to a desk a handler leaves the desk and the context as they were, stores
a reminder or switches to a notebook of the vault; it switches only if it succeeds. -/

namespace Jotter

variable {σ τ α β : Type}

namespace Builtin

/-! ### Names -/

/-- Commands are registered one behind the other if they have names and no name stands twice. -/
theorem registerEach_of_nodup {commands : List (Command (Hooks σ))} {registry : Registry (Hooks σ)}
    (hregistry : registry.WellFormed)
    (hnamed : ∀ command ∈ commands, (Text.trim command.name).isEmpty = false)
    (hnodup : ((registry.commands ++ commands).flatMap Command.names).Nodup) :
    (registerEach registry commands).1.WellFormed ∧
      (registerEach registry commands).1.commands = registry.commands ++ commands := by
  induction commands generalizing registry with
  | nil => exact ⟨hregistry, (List.append_nil _).symm⟩
  | cons command commands ih =>
      rw [List.forall_mem_cons] at hnamed
      -- the names of this command are apart from all before it, so it is appended
      have hsplit := hnodup
      rw [List.flatMap_append, List.nodup_append', List.flatMap_cons, List.nodup_append'] at hsplit
      obtain ⟨-, ⟨hown, -, -⟩, hapart⟩ := hsplit
      have hapart : ∀ other ∈ registry.commands, command.names.Disjoint other.names := by
        intro other hother name hname hshared
        exact hapart (List.mem_flatMap.2 ⟨other, hother, hshared⟩) (List.mem_append_left _ hname)
      have hfree : registry.find? command.key = none := by
        rw [hregistry.find?_eq_none]
        intro other hother hkey
        exact hapart other hother command.key_mem_names (hkey ▸ other.key_mem_names)
      have hothers : ∀ other ∈ registry.others command, command.names.Disjoint other.names :=
        fun other hother => hapart other (Registry.mem_others.1 hother).1
      have haliases : ((command.aliases.map Text.lower).filter (· ≠ command.key)).Nodup :=
        (List.nodup_cons.1 hown).2.filter _
      have hregister : registry.register command false = .ok (registry.insert command) :=
        Registry.register_eq_ok.2 ⟨hnamed.1, .inl hfree,
          fun other hother name hname => hothers other hother hname, haliases, rfl⟩
      have hcommands : (registry.insert command).commands = registry.commands ++ [command] := by
        rw [Registry.insert, hfree]
        exact List.map_append
      rw [registerEach, hregister]
      have hrest := ih (hregistry.insert hothers haliases) hnamed.2
        (by rwa [hcommands, List.append_assoc, List.singleton_append])
      rwa [hcommands, List.append_assoc, List.singleton_append] at hrest

/-- The names of the built-in commands. -/
def allNames : List String :=
  ["help", "h", "?", "ping", "test", "timestamp", "time", "now", "ts", "reminder", "remind", "r",
   "todo", "task", "checkbox", "template", "tpl", "tmpl", "tag", "t", "notebook", "nb", "switch",
   "search", "find", "s"]

theorem names_all (services : Services σ) (marker : String) :
    (all services marker).flatMap Command.names = allNames.map Text.lower :=
  rfl

theorem trim_name_all (services : Services σ) (marker : String) :
    ∀ command ∈ all services marker, (Text.trim command.name).isEmpty = false := by
  have hnames : (all services marker).map (·.name) = ["help", "ping", "timestamp", "reminder",
      "todo", "template", "tag", "notebook", "search"] := rfl
  have htrim : ∀ name ∈ (all services marker).map (·.name), (Text.trim name).isEmpty = false := by
    rw [hnames]
    decide
  exact fun command hcommand => htrim _ (List.mem_map_of_mem hcommand)

theorem registry_spec (services : Services σ) (marker : String) :
    (registry services marker).WellFormed ∧
      (registry services marker).commands = all services marker := by
  refine registerEach_of_nodup Registry.wellFormed_empty (trim_name_all services marker) ?_
  rw [show (Registry.empty : Registry (Hooks σ)).commands = [] from rfl, List.nil_append, names_all]
  decide

/-- A name that is found is that of a built-in command. -/
theorem mem_all_of_resolve? {services : Services σ} {marker name lead : String}
    {command : Command (Hooks σ)}
    (hcommand : (registry services marker).resolve? name lead = some command) :
    command ∈ all services marker := by
  obtain ⟨hregistry, hcommands⟩ := registry_spec services marker
  rw [← hcommands]
  exact (hregistry.resolve?_eq_some.1 hcommand).2.1

/-! ### Checks -/

/-- The check of a reminder fails if its time cannot be worked out. -/
theorem reminderVerdict_eq_error (marker : String) {now : Moment} {args : List String}
    {failure : Failure} :
    reminderVerdict marker now args = .error failure ↔
      ∃ time message rest, args = time :: message :: rest ∧ dueTime time now = .error failure := by
  match args with
  | [] => exact ⟨nofun, fun ⟨_, _, _, hargs, _⟩ => nomatch hargs⟩
  | [time] => exact ⟨nofun, fun ⟨_, _, _, hargs, _⟩ => nomatch hargs⟩
  | time :: message :: rest =>
      have hverdict : reminderVerdict marker now (time :: message :: rest) = .error failure ↔
          dueTime time now = .error failure := by
        rw [reminderVerdict]
        rcases dueTime time now with cause | _ | due
        · constructor
          · rintro ⟨⟩
            rfl
          · rintro ⟨⟩
            rfl
        · exact ⟨nofun, nofun⟩
        · exact ⟨nofun, nofun⟩
      rw [hverdict]
      constructor
      · exact fun hdue => ⟨time, message, rest, rfl, hdue⟩
      · rintro ⟨_, _, _, hargs, hdue⟩
        cases hargs
        exact hdue

/-- The checks of the built-in commands: that of a reminder looks at the clock, and each of the others
at the arguments only. -/
theorem validate_cases {services : Services σ} {marker : String} {command : Command (Hooks σ)}
    (hcommand : command ∈ all services marker) :
    command.hooks.validate = none ∨
      (∃ verdict : List String → Verdict,
        command.hooks.validate = some fun args => pure (verdict args)) ∨
      command = reminder services marker := by
  simp only [all, List.mem_cons, List.not_mem_nil, or_false] at hcommand
  rcases hcommand with rfl | rfl | rfl | rfl | rfl | rfl | rfl | rfl | rfl
  · exact .inl rfl
  · exact .inl rfl
  · exact .inl rfl
  · exact .inr (.inr rfl)
  · exact .inl rfl
  · exact .inr (.inl ⟨templateVerdict, rfl⟩)
  · exact .inr (.inl ⟨_, rfl⟩)
  · exact .inr (.inl ⟨_, rfl⟩)
  · exact .inr (.inl ⟨_, rfl⟩)

/-- The check of a reminder looks at the clock and changes nothing. -/
theorem reminder_check (services : Services σ) (marker : String) :
    ∃ check, (reminder services marker).hooks.validate = some check ∧
      ∀ (args : List String) (scene : Scene σ), (check args).run.run scene =
        (reminderVerdict marker (services.clock scene.state) args, scene) := by
  refine ⟨_, rfl, fun args scene => ?_⟩
  rw [Attempt.run_bind]
  exact Attempt.ofExcept_run _ scene

/-! ### Handlers -/

/-- What a handler can come to and do, seen at a desk. -/
inductive Effect (before : Scene Desk) : Except Failure Result → Scene Desk → Prop where
  | nothing (came : Except Failure Result) : Effect before came before
  | reminder (came : Except Failure Result) (message : String) (dueAt : Int) :
      Effect before came { before with
        state := { before.state with
          vault := (before.state.vault.addReminder message dueAt before.context.notebook).2 } }
  | switch {result : Result} {notebook : Notebook}
      (hnotebook : notebook ∈ before.state.vault.notebooks)
      (hactive : before.state.vault.setActive notebook.id =
        .ok { before.state.vault with active := notebook.id })
      (hsuccess : result.success = true) (hnote : result.note? = none) :
      Effect before (.ok result) { before with
        context := { before.context with notebook := notebook.id }
        state := { before.state with vault := { before.state.vault with active := notebook.id } } }

/-- It does not matter to an effect how a failure is told. -/
theorem Effect.retold {before after : Scene Desk} {cause : Failure}
    (heffect : Effect before (.error cause) after) (failure : Failure) :
    Effect before (.error failure) after := by
  cases heffect with
  | nothing => exact .nothing _
  | reminder _ message dueAt => exact .reminder _ message dueAt

/-- No handler changes the listing. -/
theorem Effect.listing_eq {before after : Scene Desk} {came : Except Failure Result}
    (heffect : Effect before came after) : after.listing = before.listing := by
  cases heffect <;> rfl

theorem findNotebook?_mem {wanted : String} {notebooks : List Notebook} {notebook : Notebook}
    (hfound : findNotebook? wanted notebooks = .ok (some notebook)) : notebook ∈ notebooks := by
  induction notebooks with
  | nil => cases hfound
  | cons first notebooks ih =>
      rw [findNotebook?] at hfound
      cases hname : nameText first with
      | error failure => rw [hname] at hfound; cases hfound
      | ok name =>
          rw [hname] at hfound
          change (if _ then _ else _) = _ at hfound
          split at hfound
          · cases hfound
            exact List.mem_cons_self
          · exact List.mem_cons_of_mem _ (ih hfound)

variable {room : Room τ} {services : Services τ}

/-- A handler with such an effect on a scene, as it is seen at the desk of a room. -/
def Affects (room : Room τ) (step : Action τ Result) (scene : Scene τ) : Prop :=
  Effect (room.view scene) (step.seen room.view scene).1 (step.seen room.view scene).2

namespace Affects

variable {scene : Scene τ}

theorem of_keeps {step : Action τ Result} (hstep : Attempt.Keeps room.view step) :
    Affects room step scene := by
  rw [Affects, hstep]
  exact .nothing _

/-- What comes after a step that keeps the view has the effect of the whole. -/
theorem bind_of_keeps {step : Action τ α} {next : α → Action τ Result}
    (hstep : Attempt.Keeps room.view step)
    (hnext : ∀ a, (step.seen room.view scene).1 = .ok a → ∀ changed,
      room.view changed = room.view scene → Affects room (next a) changed) :
    Affects room (step >>= next) scene := by
  have hleft := hstep scene
  rw [Affects]
  rcases Attempt.seen_bind room.view step next scene with
    ⟨failure, after, hseen, hboth⟩ | ⟨a, changed, hseen, hboth⟩
  · rw [hseen] at hleft
    subst hleft
    rw [hboth]
    exact .nothing _
  · rw [hseen] at hleft
    have heffect := hnext a (congrArg Prod.fst hseen) changed hleft
    rw [Affects, show room.view changed = room.view scene from hleft] at heffect
    rwa [hboth]

end Affects

theorem keeps_firstArgument (args : List String) :
    Attempt.Keeps room.view (firstArgument args : Action τ String) := by
  cases args <;> exact fun _ => rfl

/-- To store a reminder either fails or does so, and what is done then is no effect. -/
theorem affects_createReminder (hservices : services.Faithful room) (message : String) (dueAt : Int)
    (scene : Scene τ) {next : Reminder → Action τ Result}
    (hnext : ∀ reminder, Attempt.Keeps room.view (next reminder)) :
    Affects room (Action.onState (services.createReminder message dueAt scene.context.notebook) >>= next)
      scene := by
  have hstore := Room.follows_onState
    (hservices.createReminder message dueAt scene.context.notebook) scene
  rw [Affects]
  rcases Attempt.seen_bind room.view _ next scene with
    ⟨failure, after, hseen, hboth⟩ | ⟨reminder, changed, hseen, hboth⟩
  · rw [hseen] at hstore
    rcases hstore with hstored | ⟨_, hfailed⟩
    · cases hstored
    · cases hfailed
      rw [hboth]
      exact .nothing _
  · rw [hseen] at hstore
    rcases hstore with hstored | ⟨_, hfailed⟩
    · rw [hboth, hnext reminder, (Prod.mk.inj hstored).2]
      exact .reminder _ message dueAt
    · cases hfailed

theorem affects_setReminder (hservices : services.Faithful room) (args : List String)
    (scene : Scene τ) : Affects room (setReminder services args) scene := by
  refine .bind_of_keeps Attempt.keeps_get fun _ _ scene _ => ?_
  refine .bind_of_keeps (keeps_firstArgument args) fun time _ scene _ => ?_
  refine .bind_of_keeps (Attempt.keeps_ofExcept _) fun due _ scene _ => ?_
  cases due with
  | none => exact .of_keeps (Attempt.keeps_pure _)
  | some due =>
      -- up to here the handler has only read; what it stores is its last effect
      refine .bind_of_keeps (Attempt.keeps_reads _) fun context hcontext scene hscene => ?_
      refine .bind_of_keeps (Attempt.keeps_ofExcept _) fun dueAt _ scene hsame => ?_
      obtain rfl : scene.context = context :=
        (congrArg Scene.context (hsame.trans hscene)).trans (Except.ok.inj hcontext)
      exact affects_createReminder hservices _ _ scene fun _ =>
        (Attempt.keeps_ofExcept _).bind fun _ => Attempt.keeps_pure _

/-- To make a notebook the active one either fails or does so. -/
theorem setActiveNotebook_cases (hservices : services.Faithful room) (id : Setting)
    (scene : Scene τ) :
    (∃ failure, (Action.onState (services.setActiveNotebook id)).seen room.view scene =
      (.error failure, room.view scene)) ∨
    ((room.view scene).state.vault.setActive id =
      .ok { (room.view scene).state.vault with active := id } ∧
    (Action.onState (services.setActiveNotebook id)).seen room.view scene =
      (.ok (), { room.view scene with
        state := { (room.view scene).state with
          vault := { (room.view scene).state.vault with active := id } } })) := by
  rcases Room.follows_onState (hservices.setActiveNotebook id) scene with hseen | hfailed
  · rw [hseen, Action.onState, Attempt.onPart_run, Desk.services, Attempt.run_bind, Attempt.get_run]
    dsimp only
    cases hactive : (room.view scene).state.vault.setActive id with
    | error failure => exact .inl ⟨failure, rfl⟩
    | ok changed =>
        obtain ⟨-, rfl⟩ := Vault.setActive_eq_ok.1 hactive
        exact .inr ⟨rfl, rfl⟩
  · exact .inl hfailed

theorem affects_switchNotebook (hservices : services.Faithful room) (args : List String)
    (scene : Scene τ) : Affects room (switchNotebook services args) scene := by
  have hlist : (Action.onState services.listNotebooks).Follows room.view
      (Attempt.reads fun scene : Scene Desk => scene.state.vault.notebooks) :=
    Room.follows_onState hservices.listNotebooks
  refine .bind_of_keeps hlist.keeps fun notebooks hnotebooks scene hscene => ?_
  have hread := hlist.eq_of_ok hnotebooks
  rw [← hscene] at hread
  subst hread
  refine .bind_of_keeps (Attempt.keeps_ofExcept _) fun found hfound scene hsame => ?_
  rw [← hsame] at hfound ⊢
  rw [Attempt.seen, Attempt.ofExcept_run] at hfound
  cases found with
  | none =>
      exact .bind_of_keeps (Attempt.keeps_ofExcept _) fun _ _ _ _ => .of_keeps (Attempt.keeps_pure _)
  | some notebook =>
      have hnotebook := findNotebook?_mem hfound
      have hactive := setActiveNotebook_cases hservices notebook.id scene
      rw [Affects]
      rcases Attempt.seen_bind room.view _ _ scene with
        ⟨failure, after, hseen, hboth⟩ | ⟨_, changed, hseen, hboth⟩
      · rw [hseen] at hactive
        rcases hactive with ⟨_, hfailed⟩ | ⟨-, hdone⟩
        · cases hfailed
          rw [hboth]
          exact .nothing _
        · cases hdone
      · rw [hseen] at hactive
        rcases hactive with ⟨_, hfailed⟩ | ⟨hknown, hdone⟩
        · cases hfailed
        · rw [hboth]
          change Effect _ (.ok _) { room.view changed with
            context := { (room.view changed).context with notebook := notebook.id } }
          rw [(Prod.mk.inj hdone).2]
          exact .switch hnotebook hknown rfl rfl

theorem keeps_searchNotes (hservices : services.Faithful room) (args : List String) :
    Attempt.Keeps room.view (searchNotes services args) := by
  refine (Attempt.keeps_reads _).bind fun context => ?_
  cases SearchQuery.ofArguments args with
  | tag name =>
      have hsearch : (Action.onState (services.searchByTag context.vaultPath name)).Follows room.view
          (Attempt.reads fun scene : Scene Desk => scene.state.vault.notesWithTag name) :=
        Room.follows_onState (hservices.searchByTag context.vaultPath name)
      exact hsearch.keeps.bind fun _ => Attempt.keeps_pure _
  | text query =>
      have hsearch : (Action.onState (services.searchNotes context.vaultPath query)).Follows room.view
          (Attempt.reads fun scene : Scene Desk => scene.state.vault.notesWithText query) :=
        Room.follows_onState (hservices.searchNotes context.vaultPath query)
      exact hsearch.keeps.bind fun _ => Attempt.keeps_pure _

/-- A handler of a built-in command has one of these effects, whether it fails or not. -/
theorem affects_execute (hservices : services.Faithful room) {marker : String}
    {command : Command (Hooks τ)} (hcommand : command ∈ all services marker) (args : List String)
    (scene : Scene τ) : Affects room (command.hooks.execute args) scene := by
  simp only [all, List.mem_cons, List.not_mem_nil, or_false] at hcommand
  rcases hcommand with rfl | rfl | rfl | rfl | rfl | rfl | rfl | rfl | rfl
  · exact .of_keeps fun _ => rfl
  · exact .of_keeps fun _ => rfl
  · exact .of_keeps (Attempt.keeps_get.bind fun _ => Attempt.keeps_ofExcept _)
  · exact affects_setReminder hservices args scene
  · exact .of_keeps fun _ => rfl
  · exact .of_keeps ((keeps_firstArgument args).bind fun _ =>
      Attempt.keeps_get.bind fun _ => Attempt.keeps_ofExcept _)
  · exact .of_keeps fun _ => rfl
  · exact affects_switchNotebook hservices args scene
  · exact .of_keeps (keeps_searchNotes hservices args)

end Builtin

/-! ### Lines -/

namespace Session

theorem validate_reminder (services : Services σ) (marker : String) (args : List String)
    (session : Session σ) :
    (validate (Builtin.reminder services marker) args).run.run session =
      (Builtin.reminderVerdict marker (services.clock session.state) args, session) := by
  obtain ⟨check, hcheck, hrun⟩ := Builtin.reminder_check services marker
  rw [validate_of_some hcheck, run_run, hrun]
  rfl

/-- A check changes nothing, and only that of a reminder can fail. -/
theorem validate_builtin {services : Services σ} {marker : String} {command : Command (Hooks σ)}
    (hcommand : command ∈ Builtin.all services marker) (args : List String) (session : Session σ) :
    (∃ verdict, (validate command args).run.run session = (.ok verdict, session)) ∨
      command = Builtin.reminder services marker := by
  rcases Builtin.validate_cases hcommand with hnone | ⟨verdict, hcheck⟩ | hreminder
  · exact .inl ⟨_, validate_of_none hnone args session⟩
  · exact .inl ⟨verdict args, validate_of_some hcheck args session⟩
  · exact .inr hreminder

variable {room : Room τ} {services : Services τ} {marker : String} {session : Session τ}

theorem effect_runHandler (hservices : services.Faithful room) {command : Command (Hooks τ)}
    (hcommand : command ∈ Builtin.all services marker) (args : List String) (raw : String) :
    Builtin.Effect (room.view session.scene) ((runHandler command args raw).run.run session).1
      (room.view ((runHandler command args raw).run.run session).2.scene) := by
  have heffect := Builtin.affects_execute hservices hcommand args session.scene
  have hlisting := heffect.listing_eq
  rw [Builtin.Affects, Attempt.seen] at heffect
  rw [Attempt.seen] at hlisting
  rw [runHandler_run, run_run]
  generalize (command.hooks.execute args).run.run session.scene = ended at heffect hlisting
  obtain ⟨came, scene⟩ := ended
  -- the session takes the listing of its registry, which is the one that the handler has left
  have hview : room.view (session.withScene scene).scene = room.view scene := by
    change Scene.mk scene.context session.registry.outline (room.desk scene.state) =
      Scene.mk scene.context scene.listing (room.desk scene.state)
    rw [show scene.listing = session.registry.outline from hlisting]
  cases came with
  | error cause =>
      change Builtin.Effect _ _ (room.view (session.withScene scene).scene)
      rw [hview]
      exact heffect.retold _
  | ok result =>
      change Builtin.Effect _ _ (room.view (session.withScene scene).scene)
      rw [hview]
      exact heffect

/-- What a line can do in a session with the built-in commands is what one handler can do. -/
theorem effect_execute (hservices : services.Faithful room)
    (hregistry : session.registry = Builtin.registry services marker) (raw : String) :
    Builtin.Effect (room.view session.scene) ((execute raw).run.run session).1
      (room.view ((execute raw).run.run session).2.scene) := by
  rw [execute_run, hregistry]
  split
  · exact .nothing _
  cases hresolve : (Builtin.registry services marker).resolve? (Line.parse raw session.marker).name
      defaultMarker with
  | none => exact .nothing _
  | some command =>
      have hmem := Builtin.mem_all_of_resolve? hresolve
      have hcheck : ∃ came, (validate command (Line.parse raw session.marker).args).run.run session =
          (came, session) := by
        rcases validate_builtin hmem (Line.parse raw session.marker).args session with
          ⟨verdict, hcheck⟩ | rfl
        · exact ⟨_, hcheck⟩
        · exact ⟨_, validate_reminder services marker _ session⟩
      obtain ⟨came, hcheck⟩ := hcheck
      dsimp only
      rw [hcheck]
      rcases came with failure | verdict
      · exact .nothing _
      · cases verdict with
        | invalid reason => exact .nothing _
        | valid => exact effect_runHandler hservices hmem _ raw

end Session

end Jotter
