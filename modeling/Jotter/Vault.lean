import Jotter.Calendar.Moment
import Jotter.Failure
import Jotter.Hashtag
import Jotter.Settings.Value
import Jotter.Text.Search

/-!
A vault in memory: notebooks, notes with the tags found in them, and reminders. Notes and reminders
are numbered by one counter, so that no two of them share a number. Notebooks are known by labels: a
label is a text as a rule, but a settings file may give any value for one.
-/

namespace Jotter

structure Notebook where
  id : Setting
  name : Setting
  deriving Repr, Inhabited

structure Note where
  id : String
  notebook : Setting
  content : String
  createdAt : Moment
  tags : List String
  deriving Repr

structure Reminder where
  id : String
  message : String
  /-- Milliseconds since the beginning of 1970. -/
  dueAt : Int
  notebook : Setting
  completed : Bool
  deriving Repr, Inhabited

/-- The contents of a vault and the number of the next note or reminder. -/
structure Vault where
  notebooks : List Notebook := []
  notes : List Note := []
  reminders : List Reminder := []
  active : Setting := .null
  nextNumber : Nat := 1

namespace Vault

/-- Adds a notebook, which is known by its name. -/
def addNotebook (vault : Vault) (label : Setting) : Vault :=
  { vault with notebooks := vault.notebooks ++ [⟨label, label⟩] }

/-- A vault with notebooks of these names. -/
def withNotebooks (labels : List Setting) : Vault :=
  labels.foldl addNotebook {}

/-- Makes a notebook of the vault the active one. -/
def setActive (vault : Vault) (id : Setting) : Except Failure Vault :=
  if vault.notebooks.any (·.id.sameAs id) then .ok { vault with active := id }
  else .error (.unknownNotebook id.inner)

/-- Adds a note with the tags of its text. -/
def addNote (vault : Vault) (now : Moment) (notebook : Setting) (content : String) :
    Note × Vault :=
  let note : Note :=
    ⟨"note-" ++ toString vault.nextNumber, notebook, content, now, Hashtag.extract content⟩
  (note, { vault with notes := vault.notes ++ [note], nextNumber := vault.nextNumber + 1 })

def addReminder (vault : Vault) (message : String) (dueAt : Int) (notebook : Setting) :
    Reminder × Vault :=
  let reminder : Reminder :=
    ⟨"reminder-" ++ toString vault.nextNumber, message, dueAt, notebook, false⟩
  (reminder,
    { vault with reminders := vault.reminders ++ [reminder], nextNumber := vault.nextNumber + 1 })

/-- The tags of all notes, each once and with its number sign, in order. -/
def tags (vault : Vault) : List String :=
  ((vault.notes.flatMap (·.tags)).map ("#" ++ ·)).eraseDups.mergeSort (fun a b => !(b < a))

/-- The notes whose text holds the query, in any case. -/
def notesWithText (vault : Vault) (query : String) : List Note :=
  vault.notes.filter fun note => Text.occursIn (Text.lower query) (Text.lower note.content)

/-- A tag as it is looked up: without number signs before it, in lower case. -/
def tagKey (tag : String) : String :=
  Text.lower (.ofList (tag.toList.dropWhile (· == '#')))

/-- The notes that hold the tag, in any case and with or without its number sign. -/
def notesWithTag (vault : Vault) (tag : String) : List Note :=
  vault.notes.filter (·.tags.contains (tagKey tag))

end Vault

end Jotter
