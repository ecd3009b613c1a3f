import Jotter.Text.Blank
import Jotter.Text.Case

/-!
Commands: what the listings tell of one, and what it does when it is called. The description and the
hooks are kept apart by a type parameter, so that a listing can be handed on without the hooks.
-/

namespace Jotter

/-- The groups in which commands are listed. -/
inductive Category where
  | note
  | notebook
  | search
  | tag
  | sync
  | utility
  | custom
  deriving DecidableEq, Repr, Inhabited

namespace Category

def all : List Category :=
  [note, notebook, search, tag, sync, utility, custom]

def label : Category → String
  | note => "note"
  | notebook => "notebook"
  | search => "search"
  | tag => "tag"
  | sync => "sync"
  | utility => "utility"
  | custom => "custom"

/-- The label with a capital letter, as headings show it. -/
def heading : Category → String
  | note => "Note"
  | notebook => "Notebook"
  | search => "Search"
  | tag => "Tag"
  | sync => "Sync"
  | utility => "Utility"
  | custom => "Custom"

def ofLabel? (label : String) : Option Category :=
  all.find? (·.label == label)

end Category

/-- What the help tells of one argument. Nothing is enforced. -/
structure Argument where
  name : String
  description : String
  required : Bool
  fallback : Option String
  deriving DecidableEq, Repr, Inhabited

/-- A command with hooks of some type. -/
structure Command (η : Type) where
  name : String
  description : String
  category : Category
  aliases : List String
  usage : String
  arguments : List Argument
  enabled : Bool
  hooks : η

namespace Command

variable {η : Type}

/-- The usage line of a command that gives none: required arguments in angle brackets, the others in
square ones. -/
def defaultUsage (name : String) (arguments : List Argument) : String :=
  " ".intercalate (("/" ++ name) :: arguments.map fun argument =>
    if argument.required then "<" ++ argument.name ++ ">" else "[" ++ argument.name ++ "]")

/-- The name that the registry files a command under. -/
def key (command : Command η) : String :=
  Text.lower command.name

/-- All names of a command in lower case, its own one first. -/
def names (command : Command η) : List String :=
  command.key :: command.aliases.map Text.lower

/-- The places for arguments in the usage line. -/
def placeholders (command : Command η) : List String :=
  (Text.words command.usage).drop 1

/-- The description of a command without its hooks. -/
def outline (command : Command η) : Command Unit :=
  { command with hooks := () }

end Command

end Jotter
