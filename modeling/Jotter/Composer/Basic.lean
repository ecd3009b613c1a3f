import Jotter.Console.Markup
import Jotter.Console.Printed
import Jotter.Services
import Jotter.Session

/-!
The composer: a session with an input buffer. A submitted line is run if it is a command, and stored as
a note otherwise. The buffer is emptied only after the note is stored, and a command line stays in it
unless its result says otherwise, so that what was typed is not lost.
-/

namespace Jotter

structure Composer (σ : Type) where
  session : Session σ
  /-- The text that the next prompt begins with. -/
  buffer : String := ""
  printed : List Printed := []

/-- What a submitted line came to. -/
inductive Submission where
  /-- The line was blank, or the handler of its command failed. -/
  | nothing
  | result (result : Result)
  | note (note : Note)
  deriving Repr

/-- The note that a line makes: its text without margins, with one marker for a doubled one. -/
def Line.noteText (text marker : String) : String :=
  let content := Text.trim text
  if Text.startsWith content (marker ++ marker) then Text.dropLead content marker else content

namespace Composer

variable {σ α : Type}

/-- Runs a step of the session. -/
def inSession (step : Attempt (Session σ) α) : Attempt (Composer σ) α :=
  Attempt.onPart session (fun composer session => { composer with session := session }) step

def print (item : Printed) : Attempt (Composer σ) Unit :=
  modify fun composer => { composer with printed := composer.printed ++ [item] }

/-- Prints a one-line message. -/
def say (kind : MessageKind) (text : String) : Attempt (Composer σ) Unit :=
  print (.markup (kind.render text))

def setBuffer (text : String) : Attempt (Composer σ) Unit :=
  modify fun composer => { composer with buffer := text }

/-- Stores a note in the notebook of the session. -/
def saveNote (services : Services σ) (content : String) : Attempt (Composer σ) Note := do
  let context := (← get).session.context
  inSession (Session.run (Action.onState
    (services.createNote context.vaultPath context.notebook content)))

/-! ### Results -/

/-- The message of a failed result; an empty one counts as none. -/
def failureText (message : Option String) : String :=
  match message with
  | none | some "" => "Command failed"
  | some message => message

/-- Stores and shows the note that a result asks for. -/
def applyNote (services : Services σ) (result : Result) : Attempt (Composer σ) Unit := do
  match result.note? with
  | none => return
  | some content =>
    let _ ← saveNote services content
    print (.document content)

/-- Shows the message of a successful result, unless it is empty. -/
def applyMessage (result : Result) : Attempt (Composer σ) Unit := do
  match result.message with
  | none | some "" => return
  | some message => say .info (Markup.escape message)

/-- Performs the effects that a result asks for. A failed result is told, and nothing else is done. -/
def apply (services : Services σ) (result : Result) : Attempt (Composer σ) Unit := do
  if result.success then
    if let some content := result.insertContent then setBuffer content
    applyNote services result
    if result.clearInput then setBuffer ""
    applyMessage result
  else say .error (Markup.escape (failureText result.message))

/-! ### Submitted lines -/

/-- The panel that tells that the handler of a command failed. -/
def failurePanel (marker : String) (failure : Failure) (command : String) (args : List String) :
    Printed :=
  let invocation :=
    Text.trimRight (marker ++ command ++ " " ++ Markup.escape (" ".intercalate args))
  .panel (Markup.escape failure.message ++ "\n\n" ++ Style.dim.wrap invocation) "Command Error" .error

/-- Runs a command line and performs its effects. The failure of a handler is told in a panel; any
other failure is handed on. -/
def runCommand (services : Services σ) (text : String) : Attempt (Composer σ) (Option Result) := do
  setBuffer text
  match ← Attempt.outcome (inSession (Session.execute text)) with
  | .ok result =>
    apply services result
    return some result
  | .error (.execution command args cause) =>
    print (failurePanel (← get).session.marker (.execution command args cause) command args)
    return none
  | .error failure => throw failure

/-- Stores a line as a note and empties the buffer. -/
def takeNote (services : Services σ) (text : String) : Attempt (Composer σ) Note := do
  let note ← saveNote services (Line.noteText text (← get).session.marker)
  setBuffer ""
  say .success ("Saved note " ++ note.id)
  return note

/-- Takes a submitted line. -/
def submit (services : Services σ) (text : String) : Attempt (Composer σ) Submission := do
  if (Text.trim text).isEmpty then return .nothing
  if Line.isCommand text (← get).session.marker then
    match ← runCommand services text with
    | some result => return .result result
    | none => return .nothing
  else return .note (← takeNote services text)

end Composer

end Jotter
