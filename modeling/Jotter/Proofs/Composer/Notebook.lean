import Jotter.Composer.Creation
import Jotter.Proofs.Builtin.Effect
import Jotter.Proofs.Composer.Run

/-! The notebook of a session is kept in two places, in the context and in the vault. With the built-in
commands over collaborators that are faithful to a desk, but may fail at any call, the two never differ:
a line leaves both as they were, or it is a command that succeeds and makes a notebook of the vault the
active one in both. What a line stores, it stores in the notebook that the session was in. -/

namespace Jotter

variable {σ τ : Type}

/-- A label that equals a text is this text. -/
theorem Setting.sameAs_text {label : Setting} {value : String} :
    label.sameAs (.text value) = true ↔ label = .text value := by
  cases label with
  | text own => simp [sameAs]
  | _ => simp [sameAs, number?]

namespace Session

/-! ### Ways to go on -/

/-- Two sessions between which notes and reminders were added, all of them in the notebook of the session,
and nothing else has changed that concerns notebooks. -/
structure Stays (room : Room τ) (before after : Session τ) (notes : List Note)
    (reminders : List Reminder) : Prop where
  context_eq : after.context.notebook = before.context.notebook
  active_eq : (room.vault after.state).active = (room.vault before.state).active
  notebooks_eq : (room.vault after.state).notebooks = (room.vault before.state).notebooks
  grown : Vault.Grown (room.vault before.state) (room.vault after.state) notes reminders
  notes_notebook : ∀ note ∈ notes, note.notebook = before.context.notebook
  reminders_notebook : ∀ reminder ∈ reminders, reminder.notebook = before.context.notebook

/-- Two sessions between which a notebook of the vault was made the active one, in both places. -/
structure Switches (room : Room τ) (before after : Session τ) : Prop where
  notebook : ∃ notebook ∈ (room.vault before.state).notebooks,
    after.context.notebook = notebook.id ∧ (room.vault after.state).active = notebook.id
  notebooks_eq : (room.vault after.state).notebooks = (room.vault before.state).notebooks
  grown : Vault.Grown (room.vault before.state) (room.vault after.state) [] []

variable {room : Room τ} {before between after : Session τ} {notes moreNotes : List Note}
  {reminders moreReminders : List Reminder}

theorem Stays.of_eq (hdesk : room.desk after.state = room.desk before.state)
    (hcontext : after.context = before.context) : Stays room before after [] [] := by
  have hvault : room.vault after.state = room.vault before.state := congrArg Desk.vault hdesk
  exact
    { context_eq := congrArg Context.notebook hcontext
      active_eq := congrArg Vault.active hvault
      notebooks_eq := congrArg Vault.notebooks hvault
      grown := .of_eq (congrArg Vault.notes hvault) (congrArg Vault.reminders hvault)
        (congrArg Vault.nextNumber hvault)
      notes_notebook := fun _ hnote => absurd hnote List.not_mem_nil
      reminders_notebook := fun _ hreminder => absurd hreminder List.not_mem_nil }

theorem Stays.trans (hfirst : Stays room before between notes reminders)
    (hsecond : Stays room between after moreNotes moreReminders) :
    Stays room before after (notes ++ moreNotes) (reminders ++ moreReminders) where
  context_eq := hsecond.context_eq.trans hfirst.context_eq
  active_eq := hsecond.active_eq.trans hfirst.active_eq
  notebooks_eq := hsecond.notebooks_eq.trans hfirst.notebooks_eq
  grown := hfirst.grown.trans hsecond.grown
  notes_notebook := List.forall_mem_append.2 ⟨hfirst.notes_notebook, fun note hnote =>
    (hsecond.notes_notebook note hnote).trans hfirst.context_eq⟩
  reminders_notebook := List.forall_mem_append.2 ⟨hfirst.reminders_notebook, fun reminder hreminder =>
    (hsecond.reminders_notebook reminder hreminder).trans hfirst.context_eq⟩

variable {services : Services τ} {content : String}

theorem stays_of_stored (hservices : services.Faithful room) {note : Note}
    (hstored : before.stored services content = (.ok note, after)) :
    Stays room before after [note] [] := by
  obtain ⟨rfl, hdesk, hcontext⟩ := desk_of_stored hservices hstored
  have hvault : room.vault after.state = _ := congrArg Desk.vault hdesk
  exact
    { context_eq := congrArg Context.notebook hcontext
      active_eq := by rw [hvault]; rfl
      notebooks_eq := by rw [hvault]; rfl
      grown := by rw [hvault]; exact .addNote _ _ _ _
      notes_notebook := List.forall_mem_singleton.2 rfl
      reminders_notebook := fun _ hreminder => absurd hreminder List.not_mem_nil }

theorem stays_of_unstored (hservices : services.Faithful room) {failure : Failure}
    (hstored : before.stored services content = (.error failure, after)) :
    Stays room before after [] [] :=
  have hsame := desk_of_unstored hservices hstored
  .of_eq hsame.1 hsame.2

/-- A handler with an effect leaves the session in its notebook, or it succeeds and switches. -/
theorem stays_or_switches {came : Except Failure Result}
    (heffect : Builtin.Effect (room.view before.scene) came (room.view after.scene)) :
    (∃ reminders, Stays room before after [] reminders) ∨
      (Switches room before after ∧
        ∃ result, came = .ok result ∧ result.success = true ∧ result.note? = none) := by
  generalize hview : room.view after.scene = seen at heffect
  cases heffect with
  | nothing =>
      have hdesk : room.desk after.state = room.desk before.state := congrArg Scene.state hview
      exact .inl ⟨[], .of_eq hdesk (congrArg Scene.context hview)⟩
  | reminder _ message dueAt =>
      have hvault : room.vault after.state = ((room.vault before.state).addReminder message dueAt
          before.context.notebook).2 := congrArg (fun scene => scene.state.vault) hview
      exact .inl ⟨[((room.vault before.state).addReminder message dueAt before.context.notebook).1],
        { context_eq := congrArg (fun scene => scene.context.notebook) hview
          active_eq := by rw [hvault]; rfl
          notebooks_eq := by rw [hvault]; rfl
          grown := by rw [hvault]; exact .addReminder _ _ _ _
          notes_notebook := fun _ hnote => absurd hnote List.not_mem_nil
          reminders_notebook := List.forall_mem_singleton.2 rfl }⟩
  | @switch result notebook hnotebook hactive hsuccess hnote =>
      have hvault : room.vault after.state = { room.vault before.state with active := notebook.id } :=
        congrArg (fun scene => scene.state.vault) hview
      have hcontext : after.context.notebook = notebook.id :=
        congrArg (fun scene => scene.context.notebook) hview
      refine .inr ⟨⟨⟨notebook, hnotebook, hcontext, ?_⟩, ?_, ?_⟩, result, rfl, hsuccess, hnote⟩
      · rw [hvault]
      · rw [hvault]
      · rw [hvault]
        exact .of_eq rfl rfl rfl

/-- Only a success without a note can be a switch. -/
theorem stays_of_effect {came : Except Failure Result}
    (heffect : Builtin.Effect (room.view before.scene) came (room.view after.scene))
    (hcame : ∀ result, came = .ok result → result.success = true → result.note? ≠ none) :
    ∃ reminders, Stays room before after [] reminders := by
  rcases stays_or_switches heffect with hstays | ⟨-, result, hok, hsuccess, hnote⟩
  · exact hstays
  · exact absurd hnote (hcame result hok hsuccess)

end Session

namespace Composer

/-! ### Lines -/

/-- The context and the vault name the same notebook, which is a notebook of the vault or nothing. -/
structure Attuned (room : Room τ) (composer : Composer τ) : Prop where
  context_eq : composer.session.context.notebook = (composer.vault room).active
  known : composer.session.context.notebook = .null ∨
    ∃ notebook ∈ (composer.vault room).notebooks, notebook.id = composer.session.context.notebook

/-- What a line has to do with the notebook: the two places agree before and after, what is stored is
stored in the notebook of the session, and both places stay as they were if something is stored or if the
line does not come to a successful result. -/
structure Event.Attuned (room : Room τ) (event : Event τ) : Prop where
  before : event.before.Attuned room
  after : event.after.Attuned room
  grows : event.Grows room
  notes_notebook : ∀ note ∈ event.newNotes room,
    note.notebook = event.before.session.context.notebook
  reminders_notebook : ∀ reminder ∈ event.newReminders room,
    reminder.notebook = event.before.session.context.notebook
  kept : event.newNotes room ≠ [] ∨ event.newReminders room ≠ [] ∨
      (∀ result, event.outcome = .ok (.result result) → result.success = false) →
    event.after.session.context.notebook = event.before.session.context.notebook ∧
      (event.after.vault room).active = (event.before.vault room).active

variable {room : Room τ} {services : Services τ} {marker line : String} {before after : Composer τ}
  {outcome : Except Failure Submission}

/-- A line leaves the session in its notebook, or it succeeds and switches. -/
theorem Course.stays_or_switches (hservices : services.Faithful room)
    (hregistry : before.session.registry = Builtin.registry services marker)
    (hcourse : Course services before line outcome after) :
    (∃ notes reminders, Session.Stays room before.session after.session notes reminders) ∨
      (Session.Switches room before.session after.session ∧
        ∃ result, outcome = .ok (.result result) ∧ result.success = true) := by
  have heffect := Session.effect_execute hservices hregistry line
  cases hcourse with
  | blank => exact .inl ⟨_, _, .of_eq rfl rfl⟩
  | text _ _ hnoting =>
      cases hnoting with
      | stored hstored => exact .inl ⟨_, _, Session.stays_of_stored hservices hstored⟩
      | unstored hstored => exact .inl ⟨_, _, Session.stays_of_unstored hservices hstored⟩
  | command _ _ hrunning =>
      cases hrunning with
      | raised hexecute | unchecked hexecute =>
          rw [hexecute] at heffect
          obtain ⟨reminders, hstays⟩ := Session.stays_of_effect heffect nofun
          exact .inl ⟨_, _, hstays⟩
      | failed hexecute hfailed =>
          rw [hexecute] at heffect
          obtain ⟨reminders, hstays⟩ := Session.stays_of_effect heffect
            (by rintro _ ⟨⟩ hsuccess; cases hfailed.symm.trans hsuccess)
          exact .inl ⟨_, _, hstays⟩
      | performed hexecute hsuccess =>
          rw [hexecute] at heffect
          rcases Session.stays_or_switches heffect with ⟨reminders, hstays⟩ | ⟨hswitches, -⟩
          · exact .inl ⟨_, _, hstays⟩
          · exact .inr ⟨hswitches, _, rfl, hsuccess⟩
      | performedWithNote hexecute _ hnote hstored =>
          rw [hexecute] at heffect
          obtain ⟨reminders, hstays⟩ := Session.stays_of_effect heffect
            (by rintro _ ⟨⟩ -; exact fun hnone => nomatch hnone.symm.trans hnote)
          exact .inl ⟨_, _, hstays.trans (Session.stays_of_stored hservices hstored)⟩
      | interrupted hexecute _ hnote hstored =>
          rw [hexecute] at heffect
          obtain ⟨reminders, hstays⟩ := Session.stays_of_effect heffect
            (by rintro _ ⟨⟩ -; exact fun hnone => nomatch hnone.symm.trans hnote)
          exact .inl ⟨_, _, hstays.trans (Session.stays_of_unstored hservices hstored)⟩

theorem Attuned.atTime (hbefore : before.Attuned room) (now : Moment) :
    (before.atTime room now).Attuned room where
  context_eq := by
    rw [vault_atTime]
    exact hbefore.context_eq
  known := by
    rw [vault_atTime]
    exact hbefore.known

theorem attuned_of_stays {notes : List Note} {reminders : List Reminder} (hbefore : before.Attuned room)
    (hstays : Session.Stays room before.session after.session notes reminders) : after.Attuned room where
  context_eq := hstays.context_eq.trans (hbefore.context_eq.trans hstays.active_eq.symm)
  known := by
    rw [hstays.context_eq, vault, hstays.notebooks_eq]
    exact hbefore.known

theorem attuned_of_switches (hswitches : Session.Switches room before.session after.session) :
    after.Attuned room := by
  obtain ⟨⟨notebook, hnotebook, hcontext, hactive⟩, hnotebooks, -⟩ := hswitches
  refine ⟨hcontext.trans hactive.symm, .inr ⟨notebook, ?_, hcontext.symm⟩⟩
  rw [vault, hnotebooks]
  exact hnotebook

/-- Every way of a line keeps the two places together. -/
theorem Course.attuned (hservices : services.Faithful room)
    (hregistry : before.session.registry = Builtin.registry services marker)
    (hbefore : before.Attuned room) (hcourse : Course services before line outcome after) :
    Event.Attuned room ⟨line, before, outcome, after⟩ := by
  let event : Event τ := ⟨line, before, outcome, after⟩
  change event.Attuned room
  rcases hcourse.stays_or_switches hservices hregistry with
    ⟨notes, reminders, hstays⟩ | ⟨hswitches, result, houtcome, hsuccess⟩
  · obtain ⟨hgrows, hnotes, hreminders⟩ := event.grows_of_grown hstays.grown
    exact
      { before := hbefore
        after := attuned_of_stays hbefore hstays
        grows := hgrows
        notes_notebook := by rw [hnotes]; exact hstays.notes_notebook
        reminders_notebook := by rw [hreminders]; exact hstays.reminders_notebook
        kept := fun _ => ⟨hstays.context_eq, hstays.active_eq⟩ }
  · obtain ⟨hgrows, hnotes, hreminders⟩ := event.grows_of_grown hswitches.grown
    refine ⟨hbefore, attuned_of_switches hswitches, hgrows, ?_, ?_, ?_⟩
    · rw [hnotes]
      exact fun _ hnote => absurd hnote List.not_mem_nil
    · rw [hreminders]
      exact fun _ hreminder => absurd hreminder List.not_mem_nil
    · rintro (hnew | hnew | hfails)
      · exact absurd hnotes hnew
      · exact absurd hreminders hnew
      · cases (hfails result houtcome).symm.trans hsuccess

/-! ### New composers -/

/-- The vault that a composer begins with, for a label that is nothing or a text that is not empty. -/
theorem newVault_spec {labels : List Setting} {label : Setting} {made : Vault}
    (hlabel : label = .null ∨ ∃ name, name ≠ "" ∧ label = .text name)
    (hmade : newVault labels label = .ok made) :
    made.active = label ∧ made.notes = [] ∧ made.reminders = [] ∧
      (label = .null ∨ ∃ notebook ∈ made.notebooks, notebook.id = label) := by
  obtain ⟨notebooks, hnotebooks⟩ := Vault.withNotebooks_eq (notebookLabels labels label)
  rw [newVault, hnotebooks] at hmade
  rcases hlabel with rfl | ⟨name, hname, rfl⟩
  · cases hmade
    exact ⟨rfl, rfl, rfl, .inl rfl⟩
  · have hgiven : (Setting.text name).isGiven = true := by simpa [Setting.isGiven] using hname
    rw [if_pos hgiven] at hmade
    obtain ⟨hknown, rfl⟩ := Vault.setActive_eq_ok.1 hmade
    obtain ⟨notebook, hnotebook, hsame⟩ := List.any_eq_true.1 hknown
    exact ⟨rfl, rfl, rfl, .inr ⟨notebook, hnotebook, Setting.sameAs_text.1 hsame⟩⟩

/-- The composer with the built-in commands over other collaborators, which have a state of their own. -/
def withServices (composer : Composer σ) (services : Services τ) (whole : τ) : Composer τ where
  session :=
    { registry := Builtin.registry services composer.session.marker
      history := composer.session.history
      marker := composer.session.marker
      context := composer.session.context
      state := whole }
  buffer := composer.buffer
  printed := composer.printed

theorem registry_withServices (composer : Composer σ) (services : Services τ) (whole : τ) :
    (composer.withServices services whole).session.registry =
      Builtin.registry services composer.session.marker := by
  rw [withServices]

variable {settings : ComposerSettings} {vaultPath : Option String} {label : Setting}
  {labels : List Setting} {now : Moment} {created : Composer Desk}

/-- A new composer has its own vault and the notebook that it was made with; over its own desk it is the
composer that `withServices` makes of it. -/
theorem create_spec (hcreated : create settings vaultPath label labels now = .ok created) :
    newVault labels label = .ok created.session.state.vault ∧ created.session.context.notebook = label ∧
      created.withServices Desk.services created.session.state = created := by
  rw [create] at hcreated
  cases hmade : newVault labels label with
  | error failure =>
      rw [hmade] at hcreated
      exact nomatch hcreated
  | ok made =>
      rw [hmade] at hcreated
      cases hhistory : History.new settings.historySize with
      | error failure =>
          rw [hhistory] at hcreated
          exact nomatch hcreated
      | ok history =>
          rw [hhistory] at hcreated
          rw [← Except.ok.inj hcreated]
          exact ⟨rfl, rfl, rfl⟩

/-- A new composer, with its desk or any collaborators that are faithful to it, keeps to one notebook,
whatever lines are submitted: it agrees on it with the vault before and after every line, and all notes
and reminders there are were stored by the lines, each in the notebook of its moment. -/
theorem lines_attuned (hservices : services.Faithful room)
    (hlabel : label = .null ∨ ∃ name, name ≠ "" ∧ label = .text name)
    (hcreated : create settings vaultPath label labels now = .ok created) {whole : τ}
    (hwhole : room.desk whole = created.session.state) (calls : List (String × Moment)) :
    let start := created.withServices services whole
    let events := start.events room services calls
    let final := start.afterAll room services calls
    (∀ event ∈ events, event.Attuned room) ∧ final.Attuned room ∧
      (final.vault room).notes = events.flatMap (Event.newNotes room) ∧
      (final.vault room).reminders = events.flatMap (Event.newReminders room) := by
  intro start events final
  obtain ⟨hmade, hcontext, -⟩ := create_spec hcreated
  obtain ⟨hactive, hnotes, hreminders, hknown⟩ := newVault_spec hlabel hmade
  have hvault : start.vault room = created.session.state.vault := congrArg Desk.vault hwhole
  have hstart : start.Attuned room := by
    rw [← hcontext] at hactive hknown
    rw [← hvault] at hactive hknown
    exact ⟨hactive.symm, hknown⟩
  -- the commands stay the same, so every line runs a built-in command or none
  have hlaws := @forall_events τ room services
    (fun composer => composer.Attuned room ∧
      composer.session.registry = Builtin.registry services created.session.marker) (Event.Attuned room)
    (fun _ now hcomposer => ⟨hcomposer.1.atTime now, hcomposer.2⟩)
    (fun _ hbefore hcourse =>
      have hattuned := hcourse.attuned hservices hbefore.2 hbefore.1
      ⟨hattuned, hattuned.after, hcourse.kept.1.trans hbefore.2⟩)
    start ⟨hstart, registry_withServices created services whole⟩ calls
  have hgrown := grown_afterAll start calls fun event hevent => (hlaws.1 event hevent).grows
  refine ⟨hlaws.1, hlaws.2.1, ?_, ?_⟩
  · have hall := hgrown.notes_eq
    rwa [hvault, hnotes, List.nil_append] at hall
  · have hall := hgrown.reminders_eq
    rwa [hvault, hreminders, List.nil_append] at hall

/-- The collaborators of a desk whose notebooks cannot be switched at one time. -/
def lockedAt (time : Nat) : Services Desk :=
  { Desk.services with
    setActiveNotebook := fun id => do
      if (← get).now.wall = time then throw (.reported ⟨"OSError", .storage, "locked"⟩)
      Desk.services.setActiveNotebook id }

theorem faithful_lockedAt (time : Nat) : (lockedAt time).Faithful Room.own :=
  { Desk.faithful_services with
    setActiveNotebook := by
      intro id desk
      rw [Attempt.seen, lockedAt, Attempt.run_bind, Attempt.get_run]
      dsimp only
      by_cases htime : desk.now.wall = time
      · rw [if_pos htime]
        exact .inr ⟨_, rfl⟩
      · rw [if_neg htime]
        exact .inl rfl }

/-- A time of the year 2027, at which the notebooks are locked. -/
def closed : Moment :=
  ⟨63934358400000000, some 0, by decide⟩

/-- The second after it. -/
def opened : Moment :=
  ⟨63934358401000000, some 0, by decide⟩

/-- Two attempts to change the notebook: the first fails, the second finds it in another case. -/
theorem lines_attuned_locked :
    let calls := [("/notebook Inbox", closed), ("milk", closed), ("/nb inbox", opened), ("tea", opened)]
    ∃ created, create {} none (.text "Work") [.text "Inbox"] closed = .ok created ∧
      let start := created.withServices (lockedAt closed.wall) created.session.state
      (lockedAt closed.wall).Faithful .own ∧
        (∀ event ∈ start.events .own (lockedAt closed.wall) calls, event.Attuned .own) ∧
        ((start.afterAll .own (lockedAt closed.wall) calls).vault .own).notes.map
          (fun note => (note.content, note.notebook.toText)) = [("milk", "Work"), ("tea", "Inbox")] := by
  intro calls
  refine ⟨_, rfl, faithful_lockedAt _, ?_, by decide +kernel⟩
  have hlabel : Setting.text "Work" = .null ∨ ∃ name, name ≠ "" ∧ Setting.text "Work" = .text name :=
    .inr ⟨"Work", by decide, rfl⟩
  exact And.left (lines_attuned (faithful_lockedAt _) hlabel
    (show create {} none (.text "Work") [.text "Inbox"] closed = .ok _ from rfl) rfl calls)

end Composer

end Jotter
