import Jotter.Composer.Basic
import Jotter.Proofs.Session.Run

/-! What a submitted line can come to, whatever the hooks and the collaborators do: a blank line changes
nothing, a line of text goes one of two ways and a command line one of six. Each way is told with what the
store or the command did, what the line came to, and the session and the buffer behind it; only what was
printed is left open. -/

namespace Jotter

variable {σ : Type}

/-- The buffer of a line after its result was performed. -/
def Result.bufferAfter (result : Result) (line : String) : String :=
  if result.clearInput then "" else result.insertContent.getD line

/-- What the store answers to a note of the session, and the session after it. -/
def Session.stored (services : Services σ) (session : Session σ) (content : String) :
    Except Failure Note × Session σ :=
  let ended := (services.createNote session.context.vaultPath session.context.notebook content).run.run
    session.state
  (ended.1, { session with state := ended.2 })

namespace Composer

/-! ### Steps -/

theorem inSession_run (step : Attempt (Session σ) α) (composer : Composer σ) :
    (inSession step).run.run composer = ((step.run.run composer.session).1,
      { composer with session := (step.run.run composer.session).2 }) :=
  rfl

theorem setBuffer_run (text : String) (composer : Composer σ) :
    (setBuffer text).run.run composer = (.ok (), { composer with buffer := text }) :=
  rfl

theorem runCommand_run (services : Services σ) (text : String) (composer : Composer σ) :
    (runCommand services text).run.run composer =
      match (Session.execute text).run.run composer.session with
      | (.ok result, session) =>
        (apply services result >>= fun _ => pure (some result)).run.run
          { composer with buffer := text, session := session }
      | (.error (.execution command args cause), session) =>
        (.ok none, { composer with
          buffer := text
          session := session
          printed := composer.printed ++
            [failurePanel session.marker (.execution command args cause) command args] })
      | (.error failure, session) =>
        (.error failure, { composer with buffer := text, session := session }) := by
  rw [runCommand, Attempt.run_bind, setBuffer_run]
  dsimp only
  rw [Attempt.run_bind, Attempt.outcome_run, inSession_run]
  dsimp only
  generalize (Session.execute text).run.run composer.session = ended
  obtain ⟨failure | result, session⟩ := ended
  · cases failure with
    | execution command args cause => rfl
    | _ => rfl
  · rfl

theorem submit_run (services : Services σ) (text : String) (composer : Composer σ) :
    (submit services text).run.run composer =
      if (Text.trim text).isEmpty then (.ok .nothing, composer)
      else if Line.isCommand text composer.session.marker then
        (runCommand services text >>= fun came =>
          pure (came.elim .nothing .result)).run.run composer
      else (takeNote services text >>= fun note => pure (.note note)).run.run composer := by
  rw [submit]
  split
  · rfl
  rw [Attempt.run_bind, Attempt.get_run]
  dsimp only
  split
  · rw [Attempt.run_bind, Attempt.run_bind]
    generalize (runCommand services text).run.run composer = ended
    obtain ⟨failure | came, after⟩ := ended
    · rfl
    · cases came <;> rfl
  · rfl

theorem saveNote_run (services : Services σ) (content : String) (composer : Composer σ) :
    (saveNote services content).run.run composer =
      ((composer.session.stored services content).1,
        { composer with session := (composer.session.stored services content).2 }) :=
  rfl

/-- A note is stored, the buffer is emptied, and the note is told. -/
theorem takeNote_run (services : Services σ) (text : String) (composer : Composer σ) :
    (takeNote services text).run.run composer =
      match composer.session.stored services (Line.noteText text composer.session.marker) with
      | (.ok note, session) =>
        (.ok note, ⟨session, "", composer.printed ++
          [.markup (MessageKind.success.render ("Saved note " ++ note.id))]⟩)
      | (.error failure, session) => (.error failure, { composer with session := session }) := by
  rw [takeNote, Attempt.run_bind, Attempt.get_run]
  dsimp only
  rw [Attempt.run_bind, saveNote_run]
  generalize composer.session.stored services _ = ended
  obtain ⟨failure | note, session⟩ := ended <;> rfl

/-! ### Results -/

theorem applyMessage_run (result : Result) (composer : Composer σ) :
    ∃ printed, (applyMessage result).run.run composer =
      (.ok (), { composer with printed := printed }) := by
  rw [applyMessage]
  split
  · exact ⟨_, rfl⟩
  · exact ⟨_, rfl⟩
  · exact ⟨_, rfl⟩

/-- A failed result is told and nothing else is done. -/
theorem apply_of_failed (services : Services σ) {result : Result} (hfailed : result.success = false)
    (composer : Composer σ) :
    ∃ printed, (apply services result).run.run composer =
      (.ok (), { composer with printed := printed }) := by
  rw [apply, hfailed]
  exact ⟨_, rfl⟩

/-- What is done for a successful result after its note: the buffer is emptied if it asks for that. -/
theorem apply_rest (result : Result) (composer : Composer σ) :
    ∃ printed, (do
        if result.clearInput then setBuffer ""
        applyMessage result : Attempt (Composer σ) Unit).run.run composer =
      (.ok (), { composer with
        buffer := if result.clearInput then "" else composer.buffer
        printed := printed }) := by
  cases result.clearInput with
  | false => exact applyMessage_run result composer
  | true => exact applyMessage_run result { composer with buffer := "" }

/-- A successful result fills the buffer first, then its note is stored. -/
theorem apply_of_success (services : Services σ) {result : Result} (hsuccess : result.success = true)
    (composer : Composer σ) :
    (apply services result).run.run composer =
      (applyNote services result >>= fun _ => do
        if result.clearInput then setBuffer ""
        applyMessage result).run.run
          { composer with buffer := result.insertContent.getD composer.buffer } := by
  rw [apply, hsuccess, if_pos rfl]
  cases result.insertContent <;> rfl

/-- What becomes of the note of a successful result: there is none, it is stored, or the store fails. -/
theorem apply_cases (services : Services σ) {result : Result} (hsuccess : result.success = true)
    (composer : Composer σ) :
    (result.note? = none ∧ ∃ printed, (apply services result).run.run composer =
      (.ok (), ⟨composer.session, result.bufferAfter composer.buffer, printed⟩)) ∨
    (∃ content note session printed, result.note? = some content ∧
      composer.session.stored services content = (.ok note, session) ∧
      (apply services result).run.run composer =
        (.ok (), ⟨session, result.bufferAfter composer.buffer, printed⟩)) ∨
    (∃ content failure session, result.note? = some content ∧
      composer.session.stored services content = (.error failure, session) ∧
      (apply services result).run.run composer = (.error failure,
        { composer with
          session := session
          buffer := result.insertContent.getD composer.buffer })) := by
  rw [apply_of_success services hsuccess, Attempt.run_bind, applyNote]
  cases hnote : result.note? with
  | none =>
      obtain ⟨printed, hrest⟩ :=
        apply_rest result { composer with buffer := result.insertContent.getD composer.buffer }
      exact .inl ⟨rfl, printed, hrest⟩
  | some content =>
      dsimp only
      rw [Attempt.run_bind, saveNote_run]
      dsimp only
      rcases hstored : composer.session.stored services content with ⟨failure | note, session⟩
      · exact .inr (.inr ⟨content, failure, session, rfl, hstored, rfl⟩)
      · obtain ⟨printed, hrest⟩ := apply_rest result
          ⟨session, result.insertContent.getD composer.buffer, composer.printed ++ [.document content]⟩
        exact .inr (.inl ⟨content, note, session, printed, rfl, hstored, hrest⟩)

/-! ### Lines -/

/-- The ways of a line of text: its note is stored, or the store fails. -/
inductive Noting (services : Services σ) (before : Composer σ) (line : String) :
    Except Failure Submission → Composer σ → Prop where
  | stored {note : Note} {session : Session σ} {printed : List Printed}
      (hstored : before.session.stored services (Line.noteText line before.session.marker) =
        (.ok note, session)) :
      Noting services before line (.ok (.note note)) ⟨session, "", printed⟩
  | unstored {failure : Failure} {session : Session σ}
      (hstored : before.session.stored services (Line.noteText line before.session.marker) =
        (.error failure, session)) :
      Noting services before line (.error failure) { before with session := session }

/-- The ways of a command line, by what its command came to and what became of the note of a successful
result. -/
inductive Running (services : Services σ) (before : Composer σ) (line : String) :
    Except Failure Submission → Composer σ → Prop where
  /-- The handler failed, which is told in a panel. -/
  | raised {command : String} {args : List String} {cause : Failure} {session : Session σ}
      {printed : List Printed}
      (hexecute : (Session.execute line).run.run before.session =
        (.error (.execution command args cause), session)) :
      Running services before line (.ok .nothing) ⟨session, line, printed⟩
  /-- The check failed, which is handed on. -/
  | unchecked {failure : Failure} {session : Session σ}
      (hexecute : (Session.execute line).run.run before.session = (.error failure, session))
      (hother : ∀ command args cause, failure ≠ .execution command args cause) :
      Running services before line (.error failure) ⟨session, line, before.printed⟩
  | failed {result : Result} {session : Session σ} {printed : List Printed}
      (hexecute : (Session.execute line).run.run before.session = (.ok result, session))
      (hfailed : result.success = false) :
      Running services before line (.ok (.result result)) ⟨session, line, printed⟩
  | performed {result : Result} {session : Session σ} {printed : List Printed}
      (hexecute : (Session.execute line).run.run before.session = (.ok result, session))
      (hsuccess : result.success = true) (hnote : result.note? = none) :
      Running services before line (.ok (.result result)) ⟨session, result.bufferAfter line, printed⟩
  | performedWithNote {result : Result} {between session : Session σ} {content : String} {note : Note}
      {printed : List Printed}
      (hexecute : (Session.execute line).run.run before.session = (.ok result, between))
      (hsuccess : result.success = true) (hnote : result.note? = some content)
      (hstored : between.stored services content = (.ok note, session)) :
      Running services before line (.ok (.result result)) ⟨session, result.bufferAfter line, printed⟩
  /-- The store failed, so the result was not performed to its end. -/
  | interrupted {result : Result} {between session : Session σ} {content : String} {failure : Failure}
      (hexecute : (Session.execute line).run.run before.session = (.ok result, between))
      (hsuccess : result.success = true) (hnote : result.note? = some content)
      (hstored : between.stored services content = (.error failure, session)) :
      Running services before line (.error failure)
        ⟨session, result.insertContent.getD line, before.printed⟩

/-- The ways of a line through a composer, with what it comes to and the composer behind it. -/
inductive Course (services : Services σ) (before : Composer σ) (line : String) :
    Except Failure Submission → Composer σ → Prop where
  | blank (hblank : (Text.trim line).isEmpty = true) : Course services before line (.ok .nothing) before
  | text {outcome : Except Failure Submission} {after : Composer σ}
      (hblank : (Text.trim line).isEmpty = false)
      (hcommand : Line.isCommand line before.session.marker = false)
      (hnoting : Noting services before line outcome after) : Course services before line outcome after
  | command {outcome : Except Failure Submission} {after : Composer σ}
      (hblank : (Text.trim line).isEmpty = false)
      (hcommand : Line.isCommand line before.session.marker = true)
      (hrunning : Running services before line outcome after) : Course services before line outcome after

variable (services : Services σ) (line : String) (before : Composer σ)

theorem takeNote_noting :
    Noting services before line
      ((takeNote services line >>= fun note => pure (.note note)).run.run before).1
      ((takeNote services line >>= fun note => pure (Submission.note note)).run.run before).2 := by
  rw [Attempt.run_bind, takeNote_run]
  rcases hstored : before.session.stored services (Line.noteText line before.session.marker) with
    ⟨failure | note, session⟩
  · exact .unstored hstored
  · exact .stored hstored

theorem runCommand_running :
    Running services before line
      ((runCommand services line >>= fun came => pure (came.elim .nothing .result)).run.run before).1
      ((runCommand services line >>= fun came =>
        pure (came.elim Submission.nothing .result)).run.run before).2 := by
  rw [Attempt.run_bind, runCommand_run]
  rcases hexecute : (Session.execute line).run.run before.session with ⟨failure | result, session⟩
  · cases failure with
    | execution command args cause => exact .raised hexecute
    | _ => exact .unchecked hexecute nofun
  · dsimp only
    rw [Attempt.run_bind]
    cases hsuccess : result.success with
    | false =>
        obtain ⟨printed, happly⟩ := apply_of_failed services hsuccess ⟨session, line, before.printed⟩
        rw [happly]
        exact .failed hexecute hsuccess
    | true =>
        rcases apply_cases services hsuccess ⟨session, line, before.printed⟩ with
          ⟨hnote, printed, happly⟩ | ⟨content, note, after, printed, hnote, hstored, happly⟩ |
          ⟨content, failure, after, hnote, hstored, happly⟩
        · rw [happly]
          exact .performed hexecute hsuccess hnote
        · rw [happly]
          exact .performedWithNote hexecute hsuccess hnote hstored
        · rw [happly]
          exact .interrupted hexecute hsuccess hnote hstored

/-- A line goes one of these ways. -/
theorem submit_course :
    Course services before line ((submit services line).run.run before).1
      ((submit services line).run.run before).2 := by
  rw [submit_run]
  split
  · exact .blank ‹_›
  rename_i hblank
  rw [Bool.not_eq_true] at hblank
  split
  · exact .command hblank ‹_› (runCommand_running services line before)
  · rename_i hcommand
    exact .text hblank (Bool.not_eq_true _ ▸ hcommand) (takeNote_noting services line before)

/-- What comes of a line of text is what comes of its note. -/
theorem submit_of_text {services : Services σ} {line : String} {before : Composer σ}
    (hblank : (Text.trim line).isEmpty = false)
    (hcommand : Line.isCommand line before.session.marker = false) :
    (submit services line).run.run before =
      match before.session.stored services (Line.noteText line before.session.marker) with
      | (.ok note, session) =>
        (.ok (.note note), ⟨session, "", before.printed ++
          [.markup (MessageKind.success.render ("Saved note " ++ note.id))]⟩)
      | (.error failure, session) => (.error failure, { before with session := session }) := by
  rw [submit_run, hblank, hcommand, if_neg Bool.false_ne_true, if_neg Bool.false_ne_true,
    Attempt.run_bind, takeNote_run]
  generalize before.session.stored services _ = ended
  obtain ⟨failure | note, session⟩ := ended <;> rfl

/-- What comes of a command line whose command came to a result is what comes of performing it. -/
theorem submit_of_result {services : Services σ} {line : String} {before : Composer σ} {result : Result}
    {between : Session σ} (hblank : (Text.trim line).isEmpty = false)
    (hcommand : Line.isCommand line before.session.marker = true)
    (hexecute : (Session.execute line).run.run before.session = (.ok result, between)) :
    (submit services line).run.run before =
      let ended := (apply services result).run.run ⟨between, line, before.printed⟩
      (ended.1.map fun _ => .result result, ended.2) := by
  rw [submit_run, hblank, hcommand, if_neg Bool.false_ne_true, if_pos rfl, Attempt.run_bind,
    runCommand_run, hexecute]
  dsimp only
  rw [Attempt.run_bind]
  generalize (apply services result).run.run _ = ended
  obtain ⟨failure | _, after⟩ := ended <;> rfl

/-- No line changes the commands or the marker. -/
theorem Course.kept {services : Services σ} {line : String} {before after : Composer σ}
    {outcome : Except Failure Submission} (hcourse : Course services before line outcome after) :
    Session.Kept before.session after.session := by
  have hexecute := Session.kept_execute line before.session
  cases hcourse with
  | blank => exact ⟨rfl, rfl⟩
  | text hblank hcommand hnoting =>
      cases hnoting with
      | stored hstored | unstored hstored =>
          obtain ⟨-, rfl⟩ := Prod.mk.inj hstored
          exact ⟨rfl, rfl⟩
  | command hblank hcommand hrunning =>
      cases hrunning with
      | raised hrun | unchecked hrun | failed hrun | performed hrun => rwa [hrun] at hexecute
      | performedWithNote hrun _ _ hstored | interrupted hrun _ _ hstored =>
          rw [hrun] at hexecute
          obtain ⟨-, rfl⟩ := Prod.mk.inj hstored
          exact hexecute

end Composer

end Jotter
