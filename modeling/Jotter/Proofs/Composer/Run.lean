import Jotter.Proofs.Composer.Course
import Jotter.Proofs.Services.Room
import Jotter.Proofs.Vault.Growth

/-! Composers over many lines. Each line is submitted at a time that the clock shows, and makes an event:
what the composer was before, what the line came to, and what the composer is after. A law of single
lines is a law of every event, and what the events add to the vault is all that is added to it. -/

namespace Jotter

variable {τ : Type}

/-- The state when the clock of the desk shows a time. -/
def Room.setClock (room : Room τ) (now : Moment) (whole : τ) : τ :=
  room.withDesk whole { room.desk whole with now := now }

theorem Room.desk_setClock (room : Room τ) (now : Moment) (whole : τ) :
    room.desk (room.setClock now whole) = { room.desk whole with now := now } :=
  room.desk_withDesk _ _

/-! ### The note store -/

namespace Session

variable {room : Room τ} {services : Services τ} {session after : Session τ} {content : String}

/-- A note that was stored stands at the desk, with the notebook of the context. -/
theorem desk_of_stored (hservices : services.Faithful room) {note : Note}
    (hstored : session.stored services content = (.ok note, after)) :
    let added := (room.vault session.state).addNote (room.desk session.state).now
      session.context.notebook content
    note = added.1 ∧ room.desk after.state = { room.desk session.state with vault := added.2 } ∧
      after.context = session.context := by
  intro added
  rcases hservices.createNote session.context.vaultPath session.context.notebook content session.state
    with hseen | ⟨failure, hseen⟩
  all_goals
    obtain ⟨hcame, rfl⟩ := Prod.mk.inj hstored
    obtain ⟨hanswer, hdesk⟩ := Prod.mk.inj hseen
  · exact ⟨Except.ok.inj (hcame.symm.trans hanswer), hdesk, rfl⟩
  · cases hcame.symm.trans hanswer

/-- A note that was not stored leaves the desk as it was. -/
theorem desk_of_unstored (hservices : services.Faithful room) {failure : Failure}
    (hstored : session.stored services content = (.error failure, after)) :
    room.desk after.state = room.desk session.state ∧ after.context = session.context := by
  rcases hservices.createNote session.context.vaultPath session.context.notebook content session.state
    with hseen | ⟨cause, hseen⟩
  all_goals
    obtain ⟨hcame, rfl⟩ := Prod.mk.inj hstored
    obtain ⟨hanswer, hdesk⟩ := Prod.mk.inj hseen
  · cases hcame.symm.trans hanswer
  · exact ⟨hdesk, rfl⟩

/-- The store of a desk takes every note. -/
theorem stored_ne_error (room : Room τ) (session after : Session τ) (content : String)
    (failure : Failure) : session.stored room.services content ≠ (.error failure, after) :=
  fun hstored => nomatch congrArg Prod.fst hstored

end Session

namespace Composer

def vault (room : Room τ) (composer : Composer τ) : Vault :=
  room.vault composer.session.state

/-- The composer when the clock shows a time. -/
def atTime (room : Room τ) (composer : Composer τ) (now : Moment) : Composer τ :=
  { composer with
    session := { composer.session with state := room.setClock now composer.session.state } }

theorem vault_atTime (room : Room τ) (composer : Composer τ) (now : Moment) :
    (composer.atTime room now).vault room = composer.vault room := by
  rw [vault, Room.vault, atTime, room.desk_setClock]
  rfl

/-- A line that was taken. -/
structure Event (τ : Type) where
  line : String
  before : Composer τ
  outcome : Except Failure Submission
  after : Composer τ

namespace Event

/-- The notes that an event has added. -/
def newNotes (room : Room τ) (event : Event τ) : List Note :=
  (event.after.vault room).notes.drop (event.before.vault room).notes.length

/-- The reminders that an event has added. -/
def newReminders (room : Room τ) (event : Event τ) : List Reminder :=
  (event.after.vault room).reminders.drop (event.before.vault room).reminders.length

/-- The vault has only grown, by the new notes and reminders. -/
def Grows (room : Room τ) (event : Event τ) : Prop :=
  Vault.Grown (event.before.vault room) (event.after.vault room) (event.newNotes room)
    (event.newReminders room)

theorem grows_of_grown {room : Room τ} (event : Event τ) {notes : List Note}
    {reminders : List Reminder} (hgrown : Vault.Grown (event.before.vault room) (event.after.vault room) notes reminders) :
    event.Grows room ∧ event.newNotes room = notes ∧ event.newReminders room = reminders := by
  obtain ⟨hnotes, hreminders⟩ := hgrown.eq_drop
  refine ⟨?_, hnotes.symm, hreminders.symm⟩
  rw [Grows, newNotes, newReminders, ← hnotes, ← hreminders]
  exact hgrown

end Event

/-! ### Runs -/

variable (room : Room τ) (services : Services τ)

/-- The event of a line that is submitted at a time. -/
def event (composer : Composer τ) (call : String × Moment) : Event τ :=
  let before := composer.atTime room call.2
  let ended := (submit services call.1).run.run before
  ⟨call.1, before, ended.1, ended.2⟩

/-- Every event is a line that went its way. -/
theorem event_course (composer : Composer τ) (call : String × Moment) :
    let event := composer.event room services call
    Course services event.before event.line event.outcome event.after := by
  dsimp only [event]
  exact submit_course services call.1 (composer.atTime room call.2)

/-- The events of lines that are submitted one after the other. -/
def events (composer : Composer τ) : List (String × Moment) → List (Event τ)
  | [] => []
  | call :: calls =>
    composer.event room services call :: events (composer.event room services call).after calls

/-- The composer after all these lines. -/
def afterAll (composer : Composer τ) (calls : List (String × Moment)) : Composer τ :=
  calls.foldl (fun composer call => (composer.event room services call).after) composer

variable {room : Room τ} {services : Services τ}

theorem afterAll_cons (composer : Composer τ) (call : String × Moment) (calls : List (String × Moment)) :
    composer.afterAll room services (call :: calls) =
      (composer.event room services call).after.afterAll room services calls := by
  rw [afterAll, List.foldl_cons, afterAll]

/-- What every way of a line keeps is kept by all lines, and what holds of every way holds of every
event. -/
theorem forall_events {holds : Composer τ → Prop} {law : Event τ → Prop}
    (hclock : ∀ composer now, holds composer → holds (composer.atTime room now))
    (hcourse : ∀ event : Event τ, holds event.before →
      Course services event.before event.line event.outcome event.after →
        law event ∧ holds event.after)
    {composer : Composer τ} (hstart : holds composer) (calls : List (String × Moment)) :
    (∀ event ∈ composer.events room services calls, law event) ∧
      holds (composer.afterAll room services calls) := by
  induction calls generalizing composer with
  | nil => exact ⟨fun _ hevent => absurd hevent List.not_mem_nil, hstart⟩
  | cons call calls ih =>
      have hway := event_course room services composer call
      have hbefore : holds (composer.event room services call).before := hclock composer call.2 hstart
      obtain ⟨hlaw, hafter⟩ := hcourse _ hbefore hway
      obtain ⟨hlaws, hend⟩ := ih hafter
      rw [events, List.forall_mem_cons, afterAll_cons]
      exact ⟨⟨hlaw, hlaws⟩, hend⟩

/-- What is added in the end is what the events have added, in their order. -/
theorem grown_afterAll (composer : Composer τ) (calls : List (String × Moment))
    (hgrows : ∀ event ∈ composer.events room services calls, event.Grows room) :
    Vault.Grown (composer.vault room) ((composer.afterAll room services calls).vault room)
      ((composer.events room services calls).flatMap (Event.newNotes room))
      ((composer.events room services calls).flatMap (Event.newReminders room)) := by
  induction calls generalizing composer with
  | nil => exact .of_eq rfl rfl rfl
  | cons call calls ih =>
      rw [events, List.forall_mem_cons] at hgrows
      have hfirst := hgrows.1
      rw [Event.Grows, show (composer.event room services call).before.vault room = composer.vault room
        from composer.vault_atTime room call.2] at hfirst
      rw [events, afterAll_cons, List.flatMap_cons, List.flatMap_cons]
      exact hfirst.trans (ih _ hgrows.2)

end Composer

end Jotter
