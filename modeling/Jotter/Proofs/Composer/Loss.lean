import Jotter.Proofs.Composer.Survival

/-! When the text of a submitted line is lost. A line is kept as a note, as a command that was performed,
or in the buffer, from which the next prompt begins. Two things can go wrong, both by a failure of the
note store: a line of text is not put into the buffer before it is stored, and a result that inserts a
text has replaced the line in the buffer before its note is stored. -/

namespace Jotter

variable {σ : Type}

namespace Composer

/-- The text of a line can be found in a note or in the buffer, or its command was performed. -/
inductive Recovered (services : Services σ) (before : Composer σ) (line : String) (after : Composer σ) :
    Prop where
  | noted {note : Note} (hcommand : Line.isCommand line before.session.marker = false)
      (hstored : (before.session.stored services (Line.noteText line before.session.marker)).1 =
        .ok note)
  | performed {result : Result} {between : Session σ}
      (hcommand : Line.isCommand line before.session.marker = true)
      (hexecute : (Session.execute line).run.run before.session = (.ok result, between))
      (happly : (apply services result).run.run ⟨between, line, before.printed⟩ = (.ok (), after))
  | buffered (hbuffer : after.buffer = line)

/-- The text of a line is lost to a failure of the note store, with another text left in the buffer. -/
inductive Lost (services : Services σ) (before : Composer σ) (line : String) : Failure → String → Prop where
  /-- A line of text, if the prompt did not begin with this very text. -/
  | text {failure : Failure} (hcommand : Line.isCommand line before.session.marker = false)
      (hstored : (before.session.stored services (Line.noteText line before.session.marker)).1 =
        .error failure)
      (hbuffer : before.buffer ≠ line) : Lost services before line failure before.buffer
  /-- A command line, if its result inserts another text and asks for a note. -/
  | command {result : Result} {between : Session σ} {content inserted : String} {failure : Failure}
      (hcommand : Line.isCommand line before.session.marker = true)
      (hexecute : (Session.execute line).run.run before.session = (.ok result, between))
      (hsuccess : result.success = true) (hnote : result.note? = some content)
      (hstored : (between.stored services content).1 = .error failure)
      (hinsert : result.insertContent = some inserted) (hinserted : inserted ≠ line) :
      Lost services before line failure inserted

variable {services : Services σ} {before : Composer σ} {line : String}

/-- A line that is lost fails, and the other text is in the buffer. -/
theorem Lost.submit_eq {failure : Failure} {left : String} (hlost : Lost services before line failure left)
    (hblank : (Text.trim line).isEmpty = false) :
    ((submit services line).run.run before).1 = .error failure ∧
      ((submit services line).run.run before).2.buffer = left ∧ left ≠ line := by
  cases hlost with
  | text hcommand hstored hbuffer =>
      rw [submit_of_text hblank hcommand]
      generalize before.session.stored services _ = ended at hstored
      obtain ⟨came, session⟩ := ended
      obtain rfl : came = .error failure := hstored
      exact ⟨rfl, rfl, hbuffer⟩
  | @command result between content _ _ hcommand hexecute hsuccess hnote hstored hinsert hinserted =>
      rw [submit_of_result hblank hcommand hexecute]
      rcases apply_cases services hsuccess ⟨between, line, before.printed⟩ with
        ⟨hnone, -⟩ | ⟨other, note, session, printed, hother, hdone, -⟩ |
        ⟨other, cause, session, hother, hdone, happly⟩
      · cases hnone.symm.trans hnote
      · cases hother.symm.trans hnote
        cases (congrArg Prod.fst hdone).symm.trans hstored
      · cases hother.symm.trans hnote
        cases (congrArg Prod.fst hdone).symm.trans hstored
        rw [happly, hinsert]
        exact ⟨rfl, rfl, hinserted⟩

/-- A line whose text is not in the buffer has succeeded, if it is to be found at all. -/
theorem Recovered.outcome_eq (hblank : (Text.trim line).isEmpty = false)
    (hrecovered : Recovered services before line ((submit services line).run.run before).2) :
    ((submit services line).run.run before).2.buffer = line ∨
      ∃ submission, ((submit services line).run.run before).1 = .ok submission := by
  cases hrecovered with
  | @noted note hcommand hstored =>
      rw [submit_of_text hblank hcommand]
      generalize before.session.stored services _ = ended at hstored
      obtain ⟨came, session⟩ := ended
      obtain rfl : came = .ok note := hstored
      exact .inr ⟨_, rfl⟩
  | performed hcommand hexecute happly =>
      rw [submit_of_result hblank hcommand hexecute] at happly ⊢
      rw [happly]
      exact .inr ⟨_, rfl⟩
  | buffered hbuffer => exact .inl hbuffer

/-- A command line that comes to a result was performed. -/
theorem recovered_of_result {result : Result} {between : Session σ} {after : Composer σ}
    (hblank : (Text.trim line).isEmpty = false)
    (hcommand : Line.isCommand line before.session.marker = true)
    (hexecute : (Session.execute line).run.run before.session = (.ok result, between))
    (hended : (submit services line).run.run before = (.ok (.result result), after)) :
    Recovered services before line after := by
  refine .performed hcommand hexecute ?_
  rw [submit_of_result hblank hcommand hexecute] at hended
  generalize (apply services result).run.run _ = ended at hended ⊢
  obtain ⟨failure | _, changed⟩ := ended
  · cases hended
  · cases hended
    rfl

/-- Every line is lost or to be found. -/
theorem recovered_or_lost {outcome : Except Failure Submission} {after : Composer σ}
    (hblank : (Text.trim line).isEmpty = false)
    (hended : (submit services line).run.run before = (outcome, after)) :
    Recovered services before line after ∨ ∃ failure left, Lost services before line failure left := by
  have hcourse := submit_course services line before
  rw [hended] at hcourse
  cases hcourse with
  | blank hempty => cases hblank.symm.trans hempty
  | text _ hcommand hnoting =>
      cases hnoting with
      | stored hstored => exact .inl (.noted hcommand (congrArg Prod.fst hstored))
      | unstored hstored =>
          by_cases hbuffer : before.buffer = line
          · exact .inl (.buffered hbuffer)
          · exact .inr ⟨_, _, .text hcommand (congrArg Prod.fst hstored) hbuffer⟩
  | command _ hcommand hrunning =>
      cases hrunning with
      | raised | unchecked | failed => exact .inl (.buffered rfl)
      | performed hexecute | performedWithNote hexecute =>
          exact .inl (recovered_of_result hblank hcommand hexecute hended)
      | @interrupted result _ _ _ _ hexecute hsuccess hnote hstored =>
          cases hinsert : result.insertContent with
          | none => exact .inl (.buffered rfl)
          | some inserted =>
              by_cases hinserted : inserted = line
              · exact .inl (.buffered hinserted)
              · exact .inr ⟨_, _,
                  .command hcommand hexecute hsuccess hnote (congrArg Prod.fst hstored) hinsert hinserted⟩

/-- The text of a line is lost iff it is lost in one of these two ways, which then is the failure that the
line comes to. -/
theorem unrecovered_iff_lost (services : Services σ) (before : Composer σ) {line : String}
    (hblank : (Text.trim line).isEmpty = false) :
    let ended := (submit services line).run.run before
    (¬ Recovered services before line ended.2 ↔ ∃ failure left, Lost services before line failure left) ∧
      ∀ failure left, Lost services before line failure left →
        ended.1 = .error failure ∧ ended.2.buffer = left ∧ left ≠ line := by
  intro ended
  have hended : (submit services line).run.run before = ended := rfl
  clear_value ended
  have hloss : ∀ failure left, Lost services before line failure left →
      ended.1 = .error failure ∧ ended.2.buffer = left ∧ left ≠ line := by
    intro failure left hlost
    rw [← hended]
    exact hlost.submit_eq hblank
  refine ⟨⟨(recovered_or_lost hblank hended).resolve_left, ?_⟩, hloss⟩
  rintro ⟨failure, left, hlost⟩ hrecovered
  obtain ⟨houtcome, hbuffer, hleft⟩ := hloss failure left hlost
  rw [← hended] at hrecovered houtcome hbuffer
  rcases hrecovered.outcome_eq hblank with hline | ⟨submission, hok⟩
  · exact hleft (hbuffer.symm.trans hline)
  · cases houtcome.symm.trans hok

end Composer

/-- Where the conversation survives the loss of a line, the next prompt begins with the other text. -/
theorem Conversation.prompt_of_lost {services : Services σ} (hwaits : ∀ state, services.waits state = 0)
    (theme : Theme) (conversation : Conversation σ) {line left text : String} {failure : Failure}
    (hblank : (Text.trim line).isEmpty = false)
    (hlost : Composer.Lost services conversation.composer line failure left)
    (hsurvived : failure.isRecoverable = true)
    (htext : promptText ((Composer.submit services line).run.run
      conversation.composer).2.session.context = .ok text) :
    ∃ between, (submit services line).run.run conversation = (.ok (), between) ∧
      ((prompt services theme []).run.run between).2.prompts =
        conversation.prompts ++ [⟨text, left, []⟩] := by
  obtain ⟨houtcome, hbuffer, -⟩ := hlost.submit_eq hblank
  rw [submit_run hwaits]
  generalize (Composer.submit services line).run.run conversation.composer = ended
    at houtcome hbuffer htext
  obtain ⟨outcome, composer⟩ := ended
  obtain rfl : outcome = .error failure := houtcome
  obtain rfl : composer.buffer = left := hbuffer
  dsimp only
  rw [if_pos hsurvived]
  refine ⟨_, rfl, ?_⟩
  rw [prompt_run]
  dsimp only [Composer.told] at htext ⊢
  rw [htext]

namespace Composer

/-! ### A full disk -/

/-- The collaborators of a desk, but with a note store that has no room left. -/
def fullDisk : Services Desk :=
  { Desk.services with
    createNote := fun _ _ _ => throw (.reported ⟨"OSError", .storage, "disk full"⟩) }

/-- A composer with the built-in commands over a full disk. -/
def fullComposer : Composer Desk :=
  { Conversation.freshComposer with
    session := { Conversation.freshComposer.session with registry := Builtin.registry fullDisk "/" } }

theorem lost_on_full_disk :
    Lost fullDisk fullComposer "buy milk" (.reported ⟨"OSError", .storage, "disk full"⟩) "" :=
  .text (by decide) rfl (by decide)

/-- A line of text at a prompt that began empty is lost. -/
theorem unrecovered_on_full_disk :
    (Text.trim "buy milk").isEmpty = false ∧
      ¬ Recovered fullDisk fullComposer "buy milk"
        ((submit fullDisk "buy milk").run.run fullComposer).2 := by
  have hblank : (Text.trim "buy milk").isEmpty = false := by decide
  exact ⟨hblank, (unrecovered_iff_lost fullDisk fullComposer hblank).1.2 ⟨_, _, lost_on_full_disk⟩⟩

/-- The line is no command, it is stored in no note, and the buffer stays empty. The conversation goes on
all the same, and its next prompt begins empty. -/
theorem empty_prompt_on_full_disk :
    let ended := (submit fullDisk "buy milk").run.run fullComposer
    Line.isCommand "buy milk" "/" = false ∧
      ended.1 = .error (.reported ⟨"OSError", .storage, "disk full"⟩) ∧
      ended.2.session.state.vault.notes = [] ∧ ended.2.buffer = "" ∧
      ∃ between, (Conversation.submit fullDisk "buy milk").run.run (.start {} fullComposer) =
          (.ok (), between) ∧
        ((Conversation.prompt fullDisk .standard []).run.run between).2.prompts =
          [⟨"no notebook > ", "", []⟩] := by
  have hblank : (Text.trim "buy milk").isEmpty = false := by decide
  have hcommand : Line.isCommand "buy milk" "/" = false := by decide
  have hsubmit : (submit fullDisk "buy milk").run.run fullComposer =
      (.error (.reported ⟨"OSError", .storage, "disk full"⟩), fullComposer) := by
    rw [submit_of_text hblank hcommand]
    rfl
  have htext : Conversation.promptText
      ((submit fullDisk "buy milk").run.run fullComposer).2.session.context = .ok "no notebook > " := by
    rw [hsubmit]
    rfl
  intro ended
  rw [show ended = _ from hsubmit]
  exact ⟨hcommand, rfl, rfl, rfl, Conversation.prompt_of_lost (fun _ => rfl) .standard
    (.start {} fullComposer) hblank lost_on_full_disk rfl htext⟩

end Composer

end Jotter
