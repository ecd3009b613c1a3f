import Jotter.Proofs.Builtin.Effect
import Jotter.Proofs.Composer.Run
import Jotter.Proofs.Text.Margins

/-! Which lines store a note, and which text they leave for the next prompt. As long as no hook stores
notes itself, a line of text stores one note, a command line stores one if its result is successful and
asks for it, and no other line does; notes and reminders are only ever added, and no two of them share an
identifier. -/

namespace Jotter

variable {σ τ : Type}

/-- The note of a line is the line without margins, but for one marker if that is doubled. -/
theorem Line.noteText_spec (text marker : String) :
    (if Text.startsWith (Text.trim text) (marker ++ marker) then marker ++ noteText text marker
      else noteText text marker) = Text.trim text := by
  rw [noteText]
  split
  · rename_i hdoubled
    apply Text.append_dropLead
    rw [Text.startsWith_iff, String.toList_append] at hdoubled
    exact Text.startsWith_iff.2 ((List.prefix_append _ _).trans hdoubled)
  · rfl

theorem Result.note?_eq (result : Result) :
    result.note? = if result.createNote = true ∧ result.noteContent.getD "" ≠ "" then
      some (result.noteContent.getD "") else none := by
  rw [note?]
  cases result.createNote with
  | false => rw [if_neg (by simp)]
  | true =>
      cases result.noteContent with
      | none => rw [if_neg (by simp)]
      | some content => by_cases hempty : content = "" <;> simp [hempty]

/-! ### Hooks that store no notes -/

/-- A vault and a later one, between which other things than notes were added or activated. -/
def Vault.Spared (before after : Vault) : Prop :=
  ∃ changes : List Vault.Change, (∀ change ∈ changes, change.isNote = false) ∧ after = before.run changes

namespace Vault.Spared

theorem refl (vault : Vault) : Spared vault vault :=
  ⟨[], fun _ hchange => absurd hchange List.not_mem_nil, rfl⟩

theorem trans {before between after : Vault} (hfirst : Spared before between)
    (hsecond : Spared between after) : Spared before after := by
  obtain ⟨changes, hchanges, rfl⟩ := hfirst
  obtain ⟨more, hmore, rfl⟩ := hsecond
  exact ⟨changes ++ more, List.forall_mem_append.2 ⟨hchanges, hmore⟩, (before.run_append _ _).symm⟩

theorem single (before : Vault) (change : Vault.Change) (hchange : change.isNote = false) :
    Spared before (before.change change) :=
  ⟨[change], List.forall_mem_singleton.2 hchange, rfl⟩

theorem grown {before after : Vault} (hspared : Spared before after) :
    ∃ reminders, Vault.Grown before after [] reminders := by
  obtain ⟨changes, hchanges, rfl⟩ := hspared
  obtain ⟨notes, reminders, hgrown, hquiet⟩ := before.grown_run changes
  obtain rfl := hquiet hchanges
  exact ⟨reminders, hgrown⟩

end Vault.Spared

/-- Hooks that change the vault by its own calls, but store no notes. -/
def Hooks.SparesNotes (room : Room τ) (hooks : Hooks τ) : Prop :=
  hooks.Moves fun before after => Vault.Spared (room.vault before) (room.vault after)

theorem Builtin.Effect.spared {before after : Scene Desk} {came : Except Failure Result}
    (heffect : Effect before came after) : Vault.Spared before.state.vault after.state.vault := by
  cases heffect with
  | nothing => exact .refl _
  | reminder _ message dueAt =>
      exact .single _ (.reminder message dueAt before.context.notebook) rfl
  | @switch _ notebook _ hactive =>
      have hspared := Vault.Spared.single before.state.vault (.activate notebook.id) rfl
      rwa [Vault.change, hactive] at hspared

/-- The built-in commands store no notes. -/
theorem Builtin.sparesNotes {room : Room τ} {services : Services τ} (hservices : services.Faithful room)
    {marker : String} {command : Command (Hooks τ)} (hcommand : command ∈ all services marker) :
    command.hooks.SparesNotes room where
  execute args scene := (affects_execute hservices hcommand args scene).spared
  validate check hcheck args scene := by
    rcases validate_cases hcommand with hnone | ⟨verdict, hverdict⟩ | rfl
    · cases hnone.symm.trans hcheck
    · cases hverdict.symm.trans hcheck
      exact .refl _
    · obtain ⟨own, hown, hrun⟩ := reminder_check services marker
      cases hown.symm.trans hcheck
      rw [hrun]
      exact .refl _

namespace Composer

/-! ### Events -/

namespace Event

variable (room : Room τ) (event : Event τ)

/-- What a line of text does: it stores its text, and the buffer is empty. -/
def StoresText : Prop :=
  ∃ note, event.outcome = .ok (.note note) ∧ event.newNotes room = [note] ∧
    (if Text.startsWith (Text.trim event.line)
        (event.before.session.marker ++ event.before.session.marker) then
      event.before.session.marker ++ note.content else note.content) = Text.trim event.line ∧
    note.notebook = event.before.session.context.notebook ∧
    note.tags = Hashtag.extract note.content ∧ event.after.buffer = ""

/-- What a command line does, by what its command came to. -/
inductive Answers : Except Failure Result → Prop where
  /-- The handler or the check failed. -/
  | failed {failure : Failure}
      (houtcome : event.outcome = .ok .nothing ∨ event.outcome = .error failure)
      (hnotes : event.newNotes room = []) (hbuffer : event.after.buffer = event.line) :
      Answers (.error failure)
  | refused {result : Result} (hsuccess : result.success = false)
      (houtcome : event.outcome = .ok (.result result)) (hnotes : event.newNotes room = [])
      (hbuffer : event.after.buffer = event.line) : Answers (.ok result)
  | performed {result : Result} (hsuccess : result.success = true)
      (houtcome : event.outcome = .ok (.result result))
      (hnotes : if result.createNote = true ∧ result.noteContent.getD "" ≠ "" then
          ∃ note, event.newNotes room = [note] ∧ note.content = result.noteContent.getD "" ∧
            note.notebook = event.after.session.context.notebook ∧
            note.tags = Hashtag.extract note.content
        else event.newNotes room = [])
      (hbuffer : event.after.buffer =
        if result.clearInput then "" else result.insertContent.getD event.line) : Answers (.ok result)

/-- The law of a line: what it does is told by its text and by what its command comes to. -/
structure Lawful : Prop where
  grows : event.Grows room
  blank : (Text.trim event.line).isEmpty = true →
    event.outcome = .ok .nothing ∧ event.after = event.before
  text : (Text.trim event.line).isEmpty = false →
    Line.isCommand event.line event.before.session.marker = false → event.StoresText room
  command : (Text.trim event.line).isEmpty = false →
    Line.isCommand event.line event.before.session.marker = true →
    event.Answers room ((Session.execute event.line).run.run event.before.session).1

end Event

variable {room : Room τ} {before after : Composer τ} {line : String}
  {outcome : Except Failure Submission}

/-- What is known of a note that was stored. -/
theorem stored_spec {session after : Session τ} {content : String} {note : Note}
    (hstored : session.stored room.services content = (.ok note, after)) :
    Vault.Grown (room.vault session.state) (room.vault after.state) [note] [] ∧
      note.content = content ∧ note.notebook = session.context.notebook ∧
      note.tags = Hashtag.extract content ∧ after.context = session.context := by
  obtain ⟨rfl, hdesk, hcontext⟩ := Session.desk_of_stored room.faithful_services hstored
  refine ⟨?_, rfl, rfl, rfl, hcontext⟩
  rw [Room.vault, Room.vault, hdesk]
  exact .addNote _ _ _ _

theorem Noting.storesText (hnoting : Noting room.services before line outcome after) :
    let event : Event τ := ⟨line, before, outcome, after⟩
    event.Grows room ∧ event.StoresText room := by
  cases hnoting with
  | unstored hstored => exact absurd hstored (Session.stored_ne_error _ _ _ _ _)
  | @stored note session printed hstored =>
      obtain ⟨hgrown, hcontent, hnotebook, htags, -⟩ := stored_spec hstored
      intro event
      obtain ⟨hgrows, hnotes, -⟩ := event.grows_of_grown hgrown
      refine ⟨hgrows, note, rfl, hnotes, ?_, hnotebook, ?_, rfl⟩
      · rw [hcontent]
        exact Line.noteText_spec _ _
      · rw [htags, hcontent]

theorem Running.answers (hrunning : Running room.services before line outcome after)
    (hhooks : ∀ command ∈ before.session.registry.commands, command.hooks.SparesNotes room) :
    let event : Event τ := ⟨line, before, outcome, after⟩
    event.Grows room ∧
      event.Answers room ((Session.execute line).run.run before.session).1 := by
  have hspared : Vault.Spared (room.vault before.session.state)
      (room.vault ((Session.execute line).run.run before.session).2.state) :=
    @Session.related_execute τ (fun before after => Vault.Spared (room.vault before) (room.vault after))
      (fun _ => .refl _) .trans before.session hhooks line
  obtain ⟨reminders, hgrown⟩ := hspared.grown
  intro event
  cases hrunning with
  | raised hexecute =>
      rw [hexecute] at hgrown ⊢
      obtain ⟨hgrows, hnotes, -⟩ := event.grows_of_grown hgrown
      exact ⟨hgrows, .failed (.inl rfl) hnotes rfl⟩
  | unchecked hexecute =>
      rw [hexecute] at hgrown ⊢
      obtain ⟨hgrows, hnotes, -⟩ := event.grows_of_grown hgrown
      exact ⟨hgrows, .failed (.inr rfl) hnotes rfl⟩
  | failed hexecute hfailed =>
      rw [hexecute] at hgrown ⊢
      obtain ⟨hgrows, hnotes, -⟩ := event.grows_of_grown hgrown
      exact ⟨hgrows, .refused hfailed rfl hnotes rfl⟩
  | performed hexecute hsuccess hnote =>
      rw [hexecute] at hgrown ⊢
      obtain ⟨hgrows, hnotes, -⟩ := event.grows_of_grown hgrown
      refine ⟨hgrows, .performed hsuccess rfl ?_ rfl⟩
      rw [Result.note?_eq] at hnote
      split at hnote
      · cases hnote
      · rwa [if_neg ‹_›]
  | performedWithNote hexecute hsuccess hnote hstored =>
      rw [hexecute] at hgrown ⊢
      obtain ⟨hadded, hcontent, hnotebook, htags, hcontext⟩ := stored_spec hstored
      obtain ⟨hgrows, hnotes, -⟩ := event.grows_of_grown (hgrown.trans hadded)
      refine ⟨hgrows, .performed hsuccess rfl ?_ rfl⟩
      rw [Result.note?_eq] at hnote
      split at hnote
      · cases hnote
        rw [if_pos ‹_›]
        refine ⟨_, hnotes, hcontent, ?_, ?_⟩
        · rw [hnotebook, ← hcontext]
        · rw [htags, hcontent]
      · cases hnote
  | interrupted _ _ _ hstored => exact absurd hstored (Session.stored_ne_error _ _ _ _ _)

/-- Every way of a line is lawful. -/
theorem Course.lawful (hcourse : Course room.services before line outcome after)
    (hhooks : ∀ command ∈ before.session.registry.commands, command.hooks.SparesNotes room) :
    Event.Lawful room ⟨line, before, outcome, after⟩ := by
  cases hcourse with
  | blank hblank =>
      refine ⟨(Event.grows_of_grown _ (.of_eq rfl rfl rfl)).1, fun _ => ⟨rfl, rfl⟩, ?_, ?_⟩
      · intro hnot
        cases hblank.symm.trans hnot
      · intro hnot
        cases hblank.symm.trans hnot
  | text hblank hcommand hnoting =>
      obtain ⟨hgrows, hstores⟩ := hnoting.storesText
      refine ⟨hgrows, ?_, fun _ _ => hstores, ?_⟩
      · intro hnot
        cases hblank.symm.trans hnot
      · intro _ hnot
        cases hcommand.symm.trans hnot
  | command hblank hcommand hrunning =>
      obtain ⟨hgrows, hanswers⟩ := hrunning.answers hhooks
      refine ⟨hgrows, ?_, ?_, fun _ _ => hanswers⟩
      · intro hnot
        cases hblank.symm.trans hnot
      · intro _ hnot
        cases hcommand.symm.trans hnot

/-! ### All lines -/

/-- Over a vault that was changed by its own calls only, with hooks that store no notes: whatever lines
are submitted, each of them is lawful, the notes and reminders in the end are the first ones and then what
the lines have added, and they are numbered through, so that no two share an identifier. -/
theorem lines_lawful (room : Room τ) (start : Composer τ) {changes : List Vault.Change}
    (hvault : start.vault room = ({} : Vault).run changes)
    (hhooks : ∀ command ∈ start.session.registry.commands, command.hooks.SparesNotes room)
    (calls : List (String × Moment)) :
    let events := start.events room room.services calls
    let vault := (start.afterAll room room.services calls).vault room
    (∀ event ∈ events, event.Lawful room) ∧
      vault.notes = (start.vault room).notes ++ events.flatMap (Event.newNotes room) ∧
      vault.reminders = (start.vault room).reminders ++ events.flatMap (Event.newReminders room) ∧
      (∃ noteNumbers reminderNumbers, Vault.Numbered 1 vault.nextNumber vault.notes vault.reminders
        noteNumbers reminderNumbers) ∧
      (vault.notes.map (·.id) ++ vault.reminders.map (·.id)).Nodup := by
  intro events vault
  -- the commands stay the same, so the hooks of every line are those of the beginning
  have hlaws := (@forall_events τ room room.services
    (fun composer => composer.session.registry = start.session.registry) (Event.Lawful room)
    (fun _ _ hsame => hsame)
    (fun _ hsame hcourse => ⟨hcourse.lawful (by rwa [hsame]), hcourse.kept.1.trans hsame⟩)
    start rfl calls).1
  have hgrown := grown_afterAll start calls fun event hevent => (hlaws event hevent).grows
  obtain ⟨notes, reminders, hbefore, -⟩ := Vault.grown_run {} changes
  rw [← hvault] at hbefore
  have hall := hbefore.trans hgrown
  obtain ⟨noteNumbers, reminderNumbers, hnumbered⟩ := hall.numbered
  have hnotes : vault.notes = notes ++ events.flatMap (Event.newNotes room) := hall.notes_eq
  have hreminders : vault.reminders = reminders ++ events.flatMap (Event.newReminders room) :=
    hall.reminders_eq
  rw [← hnotes, ← hreminders] at hnumbered
  exact ⟨hlaws, hgrown.notes_eq, hgrown.reminders_eq, ⟨_, _, hnumbered⟩, hnumbered.nodup_ids⟩

/-- A command whose result asks for a note of its arguments, and which fails without any. -/
def jot : Command (Hooks Desk) where
  name := "jot"
  description := "Take a note"
  category := .custom
  aliases := []
  usage := "/jot [text]"
  arguments := []
  enabled := true
  hooks :=
    { execute := fun args => pure
        { success := !args.isEmpty, createNote := true, noteContent := some (" ".intercalate args) }
      validate := none
      provider := none }

/-- The beginning of 2026. -/
def newYear : Moment :=
  ⟨63902822400000000, some 0, by decide⟩

/-- The calls that have furnished the vault of the composer below. -/
def jotChanges : List Vault.Change :=
  [.notebook (.text "Inbox"), .note newYear (.text "Inbox") "first"]

/-- A composer with the built-in commands and this one. -/
def jotComposer : Composer Desk where
  session :=
    { registry := ⟨(Builtin.all Desk.services "/" ++ [jot]).map fun command => (command.key, command)⟩
      history := ⟨50, [], 1⟩
      marker := "/"
      context := { notebook := .text "Inbox" }
      state := ⟨({} : Vault).run jotChanges, newYear⟩ }

theorem sparesNotes_jotComposer :
    ∀ command ∈ jotComposer.session.registry.commands, command.hooks.SparesNotes .own := by
  intro command hcommand
  have hmem : command ∈ Builtin.all Desk.services "/" ++ [jot] := by
    rw [show jotComposer.session.registry.commands = _ from List.map_map] at hcommand
    simpa using hcommand
  rcases List.mem_append.1 hmem with hbuiltin | hown
  · exact Builtin.sparesNotes Desk.faithful_services hbuiltin
  · obtain rfl := List.mem_singleton.1 hown
    exact ⟨fun _ _ => .refl _, nofun⟩

/-- A line of text, a command that fails, one that asks for a note, a doubled marker, and a command that
asks for none. -/
theorem lines_lawful_jot :
    let calls := ["buy milk", "/jot", "/jot tea", "//x", "/ping"].map fun line => (line, newYear)
    jotComposer.vault .own = ({} : Vault).run jotChanges ∧
      (∀ command ∈ jotComposer.session.registry.commands, command.hooks.SparesNotes .own) ∧
      (∀ event ∈ jotComposer.events .own Room.own.services calls, event.Lawful .own) ∧
      ((jotComposer.afterAll .own Room.own.services calls).vault .own).notes.map
        (fun note => (note.id, note.content)) =
        [("note-1", "first"), ("note-2", "buy milk"), ("note-3", "tea"), ("note-4", "/x")] := by
  intro calls
  have hvault : jotComposer.vault .own = ({} : Vault).run jotChanges := rfl
  refine ⟨hvault, sparesNotes_jotComposer, ?_, by decide⟩
  exact (lines_lawful .own jotComposer hvault sparesNotes_jotComposer calls).1

end Composer

end Jotter
