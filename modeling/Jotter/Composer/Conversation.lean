import Jotter.Composer.Basic
import Jotter.Panel.Completion
import Jotter.Panel.Suggester

/-!
The conversation at the prompt. Each prompt begins with the text in the buffer; while a line is typed,
the panel follows it and completions are offered. The conversation ends with an exit word, an interrupt
or the end of the input. A failure of storage, of a look-up or of a value is told and the conversation
goes on; any other failure ends it without a farewell. What the panel has asked for later is answered
while the conversation waits for a collaborator, and not otherwise.
-/

namespace Jotter

/-- How a prompt ends. -/
inductive Ending where
  | submit (text : String)
  | interrupt
  deriving DecidableEq, Repr

/-- What happens at one prompt: the texts that the line goes through while it is typed, and the end. -/
structure Turn where
  typed : List String
  ending : Ending
  deriving DecidableEq, Repr

/-- What is shown for a line that is being typed. -/
structure TypedView where
  toolbar : Option String
  completions : List Completion
  deriving DecidableEq, Repr

/-- What was shown at one prompt. -/
structure Prompt where
  text : String
  initial : String
  typed : List TypedView
  deriving DecidableEq, Repr

structure Conversation (σ : Type) where
  composer : Composer σ
  suggester : Suggester σ
  prompts : List Prompt

namespace Conversation

variable {σ α : Type}

/-- A conversation that has not begun. -/
def start (settings : PanelSettings) (composer : Composer σ) : Conversation σ :=
  ⟨composer, .start settings none, []⟩

/-- Runs a step of the composer. -/
def inComposer (step : Attempt (Composer σ) α) : Attempt (Conversation σ) α :=
  Attempt.onPart composer (fun conversation composer => { conversation with composer := composer }) step

/-- Runs a step of the session. -/
def inSession (step : Attempt (Session σ) α) : Attempt (Conversation σ) α :=
  inComposer (Composer.inSession step)

/-- The names by which a line ends the conversation. -/
def exitWords : List String :=
  ["bye", "end"]

def isExit (text : String) : Bool :=
  exitWords.contains (Text.lower (Text.trim text))

/-- The first line of a conversation. -/
def greeting (marker : String) : String :=
  Style.header.wrap "Wren composer" ++ "  " ++
    Style.dim.wrap ("Type " ++ marker ++ "help for commands, " ++ marker ++ marker ++
      " to start a note with " ++ marker ++ ", Ctrl+D to exit")

def farewell : String :=
  Style.warning.wrap "Goodbye!"

/-- How many characters of its document stand before a drawn prompt. -/
def promptColumn : Nat := 14

/-- The prompt of a session, which names the notebook. -/
def promptText (context : Context) : Except Failure String := do
  let name := if context.notebook.isGiven then context.notebook.toText else "no notebook"
  return (← Drawn.draw false promptColumn name) ++ " > "

/-- The line under the input: how the command is used and which argument comes next. -/
def toolbar? {η : Type} (panel : Panel η) : Option String :=
  match panel.command?, panel.hint? with
  | some command, some hint => some (command.usage ++ "  ·  next: " ++ hint)
  | _, _ => none

/-! ### Waiting -/

/-- Answers the requests of the panel that are waiting, as they are answered in another context. -/
def answerIn (context : Context) : Attempt (Conversation σ) Unit := do
  let conversation ← get
  let own := conversation.composer.session.context
  let session := { conversation.composer.session with context := context }
  let (suggester, session) := (conversation.suggester.settle fun _ => true).run session
  set { conversation with
    composer.session := { session with context := own }
    suggester := suggester }

/-- Runs a step. When it has to wait for a collaborator, the requests of the panel are answered in the
meantime, in the context that the step began in. -/
def withWaits (services : Services σ) (step : Attempt (Conversation σ) α) :
    Attempt (Conversation σ) α := do
  let before := (← get).composer.session
  let outcome ← Attempt.outcome step
  if services.waits before.state < services.waits (← get).composer.session.state then
    answerIn before.context
  Attempt.ofExcept outcome

/-! ### Turns -/

/-- Follows a change of the line. -/
def type (services : Services σ) (theme : Theme) (text : String) :
    Attempt (Conversation σ) TypedView := do
  let suggester ← inSession (ExceptT.lift ((← get).suggester.update true text))
  modify fun conversation => { conversation with suggester := suggester }
  let completions ← withWaits services <|
    inSession (Completion.complete theme suggester.panel.settings true text)
  return ⟨toolbar? suggester.panel, completions⟩

/-- Follows the changes of a line up to the first one that fails. -/
def typeAll (services : Services σ) (theme : Theme) :
    List String → Attempt (Conversation σ) (List TypedView × Except Failure Unit)
  | [] => return ([], .ok ())
  | text :: texts => do
    match ← Attempt.outcome (type services theme text) with
    | .error failure => return ([], .error failure)
    | .ok view =>
      let (views, outcome) ← typeAll services theme texts
      return (view :: views, outcome)

/-- Shows a prompt, at which the line goes through these texts. -/
def prompt (services : Services σ) (theme : Theme) (typed : List String) :
    Attempt (Conversation σ) Unit := do
  let composer := (← get).composer
  let text ← Attempt.ofExcept (promptText composer.session.context)
  let (views, outcome) ← typeAll services theme typed
  modify fun conversation =>
    { conversation with prompts := conversation.prompts ++ [⟨text, composer.buffer, views⟩] }
  Attempt.ofExcept outcome

/-- Submits a line; a failure that the conversation survives is told. -/
def submit (services : Services σ) (text : String) : Attempt (Conversation σ) Unit := do
  let step := withWaits services (inComposer (Composer.submit services text))
  match ← Attempt.outcome step with
  | .ok _ => return
  | .error failure =>
    if failure.isRecoverable then inComposer (Composer.say .error (Markup.escape failure.message))
    else throw failure

/-- The prompts one after the other; after the last turn the input ends. -/
def takeTurns (services : Services σ) (theme : Theme) : List Turn → Attempt (Conversation σ) Unit
  | [] => prompt services theme []
  | turn :: turns => do
    prompt services theme turn.typed
    match turn.ending with
    | .interrupt => return
    | .submit text =>
      if isExit text then return
      submit services text
      takeTurns services theme turns

/-- A whole conversation. Requests of the panel can still be waiting when it ends. -/
def run (services : Services σ) (theme : Theme) (turns : List Turn) :
    Attempt (Conversation σ) Unit := do
  let marker := (← get).suggester.panel.settings.marker
  inComposer (Composer.print (.markup (greeting marker)))
  takeTurns services theme turns
  inComposer (Composer.print (.markup farewell))

end Conversation

end Jotter
