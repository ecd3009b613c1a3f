import Jotter.Cap
import Jotter.Command.Basic
import Jotter.Failure
import Jotter.Line
import Jotter.Text.Search

/-!
The commands of a session, filed under keys in the order in which they were registered. A command
claims its own name and its aliases, all in lower case; a name that is claimed already makes a
registration fail and leaves the registry as it was. A command that replaces one of the same name takes
its place.
-/

namespace Jotter

structure Registry (η : Type) where
  entries : List (String × Command η)

namespace Registry

variable {η : Type}

def empty : Registry η := ⟨[]⟩

def commands (registry : Registry η) : List (Command η) :=
  registry.entries.map Prod.snd

/-- The command that is filed under a key. -/
def find? (registry : Registry η) (key : String) : Option (Command η) :=
  registry.entries.lookup key

/-- The commands that keep their names when `command` is registered: a command of its key makes way. -/
def others (registry : Registry η) (command : Command η) : List (Command η) :=
  registry.commands.filter (·.key != command.key)

/-- The first of `names` that is not free for `command`, told as a failure. A name is not free if one
of `others` claims it or if it stands twice in the row; the key of the command may be repeated. -/
def conflict? (others : List (Command η)) (command : Command η) :
    (seen : List String) → (names : List String) → Option Failure
  | _, [] => none
  | seen, name :: names =>
    match others.find? (·.names.contains name) with
    | some other => some (.nameTaken name other.name)
    | none =>
      if seen.contains name && name != command.key then some (.nameTaken name command.name)
      else conflict? others command (name :: seen) names

/-- The registry with a command filed in the place of the one under its key, or else at the end. -/
def insert (registry : Registry η) (command : Command η) : Registry η :=
  if (registry.find? command.key).isSome then
    ⟨registry.entries.map fun entry => if entry.1 = command.key then (entry.1, command) else entry⟩
  else ⟨registry.entries ++ [(command.key, command)]⟩

/-- Registers a command, in place of one of the same name only if `replace` is set. -/
def register (registry : Registry η) (command : Command η) (replace : Bool) :
    Except Failure (Registry η) :=
  if (Text.trim command.name).isEmpty then .error .blankName
  else
    match registry.find? command.key, replace with
    | some existing, false => .error (.nameTaken command.name existing.name)
    | _, _ =>
      match conflict? (registry.others command) command [] command.names with
      | some failure => .error failure
      | none => .ok (registry.insert command)

/-- Removes the command filed under this name, in any case; aliases do not count. -/
def unregister (registry : Registry η) (name : String) : Option (Command η) × Registry η :=
  let key := Text.lower name
  (registry.find? key, ⟨registry.entries.filter (·.1 != key)⟩)

/-- A name as it is looked up: without margins and without one marker, in lower case. -/
def normalize (name marker : String) : String :=
  Text.lower (Text.dropLead (Text.trim name) marker)

/-- The command of a name or alias: first by the names, then by the aliases. -/
def resolve? (registry : Registry η) (name marker : String) : Option (Command η) :=
  let wanted := normalize name marker
  if wanted.isEmpty then none
  else
    match registry.find? wanted with
    | some command => some command
    | none => registry.commands.find? fun command => (command.aliases.map Text.lower).contains wanted

def contains (registry : Registry η) (name : String) : Bool :=
  (registry.resolve? name defaultMarker).isSome

/-- The commands that listings show. -/
def enabled (registry : Registry η) : List (Command η) :=
  registry.commands.filter (·.enabled)

def inCategory (registry : Registry η) (category : Category) : List (Command η) :=
  registry.enabled.filter (·.category == category)

/-- The commands shown in listings that have a name beginning with `lead`, in any case. -/
def matching (registry : Registry η) (lead : String) : List (Command η) :=
  registry.enabled.filter fun command => command.names.any (Text.startsWith · (Text.lower lead))

/-- The descriptions of all commands, without their hooks. -/
def outline (registry : Registry η) : Registry Unit :=
  ⟨registry.entries.map fun entry => (entry.1, entry.2.outline)⟩

end Registry

end Jotter
