import Jotter.Command.Basic
import Jotter.Console.Markup
import Jotter.Console.Printed

/-!
Help on commands: a page on one of them, an index of several by category, and a table for the
terminal. The index and the table list the same commands in the same order.
-/

namespace Jotter.Help

variable {η : Type}

/-- The aliases of a command with their marker. -/
def aliasList (command : Command η) (marker : String) : String :=
  ", ".intercalate (command.aliases.map (marker ++ ·))

/-- The line of the help page on one argument. -/
def argumentLine (argument : Argument) : String :=
  let need := if argument.required then "(required)" else "(optional)"
  let fallback := match argument.fallback with
    | some text => " (default: " ++ text ++ ")"
    | none => ""
  "- **" ++ argument.name ++ "** " ++ need ++ ": " ++ argument.description ++ fallback ++ "\n"

/-- The help page on a command. -/
def page (command : Command η) (marker : String) : String :=
  "# " ++ marker ++ command.name ++ "\n\n" ++ command.description ++ "\n\n" ++
    (if command.usage.isEmpty then "" else "**Usage:** " ++ command.usage ++ "\n\n") ++
    (if command.aliases.isEmpty then ""
      else "**Aliases:** " ++ aliasList command marker ++ "\n\n") ++
    (if command.arguments.isEmpty then ""
      else "**Arguments:**\n" ++ String.join (command.arguments.map argumentLine))

/-- Commands in the order of their names, those of one name as they were. -/
def byName (commands : List (Command η)) : List (Command η) :=
  commands.mergeSort fun a b => !(b.name < a.name)

/-- The categories that occur, in the order of their labels. -/
def categories (commands : List (Command η)) : List Category :=
  (Category.all.filter fun category => commands.any (·.category == category)).mergeSort
    fun a b => !(b.label < a.label)

/-- The categories that occur, each with its commands in the order of their names. -/
def groups (commands : List (Command η)) : List (Category × List (Command η)) :=
  (categories commands).map fun category =>
    (category, byName (commands.filter (·.category == category)))

/-- The line of the index on a command. -/
def indexLine (command : Command η) (marker : String) : String :=
  let aliases :=
    if command.aliases.isEmpty then "" else " (" ++ aliasList command marker ++ ")"
  "- **" ++ marker ++ command.name ++ "**" ++ aliases ++ ": " ++ command.description ++ "\n"

/-- The index of commands, by category and then by name. -/
def index (commands : List (Command η)) (marker : String) : String :=
  "# Available Commands\n\n" ++
    String.join ((groups commands).map fun (category, members) =>
      "## " ++ category.heading ++ "\n\n" ++ String.join (members.map (indexLine · marker)) ++ "\n") ++
    "\nType `" ++ marker ++ "help [command-name]` for detailed help on a specific command."

/-- Whether a command stands before another one, or may, in the table. -/
def tableOrder (a b : Command η) : Bool :=
  a.category.label < b.category.label ||
    (a.category.label == b.category.label && !(b.name < a.name))

/-- The row of the table on a command. -/
def tableRow (command : Command η) (marker : String) : List String :=
  let aliases :=
    if command.aliases.isEmpty then "" else " (" ++ ", ".intercalate command.aliases ++ ")"
  [marker ++ command.name ++ aliases, command.category.label, Markup.escape command.usage,
    Markup.escape command.description]

/-- The table of commands, by category and then by name. -/
def table (commands : List (Command η)) (marker : String) : Table where
  title := "Slash Commands"
  columns := ["Command", "Category", "Usage", "Description"]
  rows := (commands.mergeSort tableOrder).map (tableRow · marker)

end Jotter.Help
