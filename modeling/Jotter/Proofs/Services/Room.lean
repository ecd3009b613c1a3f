import Jotter.Proofs.Session.Run
import Jotter.Services

/-! Desks inside larger states. Hooks and collaborators may keep a state of their own beside the vault, so
what they do is looked at through a view, which shows the desk and hides the rest. Collaborators are
faithful to a desk if each call of them does there what the desk's own one does, or fails and leaves the
desk as it is. -/

namespace Jotter

variable {σ τ α β : Type}

namespace Attempt

/-- What a step comes to and what a view shows after it. -/
def seen (view : τ → σ) (step : Attempt τ α) (whole : τ) : Except Failure α × σ :=
  ((step.run.run whole).1, view (step.run.run whole).2)

/-- A step after which a view shows what it showed before, whether the step fails or not. -/
def Keeps (view : τ → σ) (step : Attempt τ α) : Prop :=
  ∀ whole, (seen view step whole).2 = view whole

/-- Through a view, the step is `model`, or it fails with nothing to be seen of it. -/
def Follows (view : τ → σ) (step : Attempt τ α) (model : Attempt σ α) : Prop :=
  ∀ whole, seen view step whole = model.run.run (view whole) ∨
    ∃ failure, seen view step whole = (.error failure, view whole)

variable {view : τ → σ} {step : Attempt τ α}

theorem keeps_pure (a : α) : Keeps view (pure a : Attempt τ α) :=
  fun _ => rfl

theorem keeps_get : Keeps view (get : Attempt τ τ) :=
  fun _ => rfl

theorem keeps_reads (f : τ → α) : Keeps view (reads f) :=
  fun _ => rfl

theorem keeps_ofExcept (came : Except Failure α) : Keeps view (ofExcept came : Attempt τ α) :=
  fun whole => congrArg (fun ended : Except Failure α × τ => view ended.2) (ofExcept_run came whole)

/-- What is seen of two steps in a row: the failure of the first one, or the second one from where the
first one has led. -/
theorem seen_bind (view : τ → σ) (step : Attempt τ α) (next : α → Attempt τ β) (whole : τ) :
    (∃ failure after, seen view step whole = (.error failure, after) ∧
      seen view (step >>= next) whole = (.error failure, after)) ∨
    ∃ a changed, seen view step whole = (.ok a, view changed) ∧
      seen view (step >>= next) whole = seen view (next a) changed := by
  rw [seen, seen, run_bind]
  generalize step.run.run whole = ended
  obtain ⟨failure | a, changed⟩ := ended
  · exact .inl ⟨failure, _, rfl, rfl⟩
  · exact .inr ⟨a, changed, rfl, rfl⟩

theorem Keeps.bind {next : α → Attempt τ β} (hstep : Keeps view step)
    (hnext : ∀ a, Keeps view (next a)) : Keeps view (step >>= next) := by
  intro whole
  have hleft := hstep whole
  rcases seen_bind view step next whole with ⟨failure, after, hseen, hboth⟩ | ⟨a, changed, hseen, hboth⟩
  · rw [hseen] at hleft
    rw [hboth]
    exact hleft
  · rw [hseen] at hleft
    rw [hboth, hnext a]
    exact hleft

/-- What follows a step that only reads keeps the view. -/
theorem Follows.keeps {f : σ → α} (hstep : Follows view step (reads f)) : Keeps view step := by
  intro whole
  rcases hstep whole with hseen | ⟨failure, hseen⟩
  · rw [hseen]
    rfl
  · rw [hseen]

/-- What a step that follows a reading answers is what is read. -/
theorem Follows.eq_of_ok {f : σ → α} (hstep : Follows view step (reads f)) {whole : τ} {a : α}
    (hcame : (seen view step whole).1 = .ok a) : a = f (view whole) := by
  rcases hstep whole with hseen | ⟨failure, hseen⟩
  · rw [hseen] at hcame
    exact (Except.ok.inj hcame).symm
  · rw [hseen] at hcame
    cases hcame

end Attempt

/-! ### Rooms -/

/-- A desk inside a larger state. -/
structure Room (τ : Type) where
  desk : τ → Desk
  withDesk : τ → Desk → τ
  desk_withDesk : ∀ whole changed, desk (withDesk whole changed) = changed

namespace Room

/-- A desk with nothing around it. -/
def own : Room Desk :=
  ⟨id, fun _ desk => desk, fun _ _ => rfl⟩

variable (room : Room τ)

def vault (whole : τ) : Vault :=
  (room.desk whole).vault

/-- The scene of a hook with the desk alone for its state. -/
def view (scene : Scene τ) : Scene Desk :=
  ⟨scene.context, scene.listing, room.desk scene.state⟩

/-- The collaborators that the desk provides. -/
def services : Services τ :=
  Desk.services.onPart room.desk room.withDesk

theorem follows_onPart (step : Attempt Desk α) :
    (Attempt.onPart room.desk room.withDesk step).Follows room.desk step := by
  intro whole
  rw [Attempt.seen, Attempt.onPart_run, room.desk_withDesk]
  exact .inl rfl

/-- Seen at the scene, a step on the state follows the same step at the desk. -/
theorem follows_onState {room : Room τ} {step : Attempt τ α} {model : Attempt Desk α}
    (hstep : step.Follows room.desk model) :
    (Action.onState step).Follows room.view (Action.onState model) := by
  intro scene
  rcases hstep scene.state with hseen | ⟨failure, hseen⟩
  · refine .inl ?_
    change ((step.seen room.desk scene.state).1,
      Scene.mk scene.context scene.listing (step.seen room.desk scene.state).2) = _
    rw [hseen]
    rfl
  · refine .inr ⟨failure, ?_⟩
    change ((step.seen room.desk scene.state).1,
      Scene.mk scene.context scene.listing (step.seen room.desk scene.state).2) = _
    rw [hseen]
    rfl

end Room

/-- Collaborators that do at the desk of a room what they are asked to do, or fail and change nothing
there. Each call may do either. -/
structure Services.Faithful (services : Services τ) (room : Room τ) : Prop where
  createNote : ∀ path notebook content, (services.createNote path notebook content).Follows room.desk
    (Desk.services.createNote path notebook content)
  listNotebooks : services.listNotebooks.Follows room.desk Desk.services.listNotebooks
  setActiveNotebook : ∀ id,
    (services.setActiveNotebook id).Follows room.desk (Desk.services.setActiveNotebook id)
  listTags : services.listTags.Follows room.desk Desk.services.listTags
  searchNotes : ∀ path query,
    (services.searchNotes path query).Follows room.desk (Desk.services.searchNotes path query)
  searchByTag : ∀ path tag,
    (services.searchByTag path tag).Follows room.desk (Desk.services.searchByTag path tag)
  createReminder : ∀ message dueAt notebook,
    (services.createReminder message dueAt notebook).Follows room.desk
      (Desk.services.createReminder message dueAt notebook)

/-- A desk is faithful to itself. -/
theorem Room.faithful_services (room : Room τ) : room.services.Faithful room where
  createNote _ _ _ := room.follows_onPart _
  listNotebooks := room.follows_onPart _
  setActiveNotebook _ := room.follows_onPart _
  listTags := room.follows_onPart _
  searchNotes _ _ := room.follows_onPart _
  searchByTag _ _ := room.follows_onPart _
  createReminder _ _ _ := room.follows_onPart _

/-- A desk with nothing around it is faithful to itself. -/
theorem Desk.faithful_services : Desk.services.Faithful Room.own :=
  Room.own.faithful_services

end Jotter
