/-!
What comes of a command: the outcome of its check and the effects that it asks the composer for.
-/

namespace Jotter

/-- Why an invocation was turned away before its handler ran. -/
inductive Rejection where
  | emptyInvocation
  | unknownCommand
  | validationFailed
  deriving DecidableEq, Repr, Inhabited

namespace Rejection

def all : List Rejection :=
  [emptyInvocation, unknownCommand, validationFailed]

def label : Rejection → String
  | emptyInvocation => "empty_invocation"
  | unknownCommand => "unknown_command"
  | validationFailed => "validation_failed"

def ofLabel? (label : String) : Option Rejection :=
  all.find? (·.label == label)

end Rejection

/-- The outcome of the check of a command's arguments. -/
inductive Verdict where
  | valid
  | invalid (reason : Option String)
  deriving DecidableEq, Repr, Inhabited

/-- The message for arguments that were turned away; an empty reason counts as none. -/
def rejectionMessage (reason : Option String) : String :=
  match reason with
  | none | some "" => "Invalid command arguments"
  | some reason => reason

/-- The effects that a command asks for. -/
structure Result where
  success : Bool
  message : Option String := none
  /-- The new content of the input buffer. -/
  insertContent : Option String := none
  clearInput : Bool := false
  createNote : Bool := false
  noteContent : Option String := none
  rejection : Option Rejection := none
  deriving DecidableEq, Repr, Inhabited

namespace Result

/-- A failed result that tells why. -/
def failed (message : String) : Result :=
  { success := false, message := some message }

def rejected (rejection : Rejection) (message : String) : Result :=
  { success := false, message := some message, rejection := some rejection }

/-- The note that a successful result asks for: one with a text. -/
def note? (result : Result) : Option String :=
  match result.createNote, result.noteContent with
  | true, some content => if content.isEmpty then none else some content
  | _, _ => none

end Result

end Jotter
