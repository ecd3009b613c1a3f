import Jotter.Help
import Mathlib.Data.List.Basic
import Mathlib.Data.List.Nodup

/-! The commands in the index and in the table. The index sorts the categories first and then the commands
of each one by name, and the table sorts all commands at once. Both sorts leave tied commands as they were,
and a sorted list is determined by its tied items, so that the two listings are the same. -/

namespace Jotter.Help

/-! ### Sorting -/

section Sorting

variable {α : Type} {le : α → α → Bool}

variable {first second : List α}

end Sorting

/-! ### The orders of commands and categories -/

variable {η : Type}

theorem mem_all (category : Category) : category ∈ Category.all := by
  cases category <;> decide

variable (commands : List (Command η))

/-- The index with these sections. -/
def indexText (sections : List (Category × List (Command η))) (marker : String) : String :=
  "# Available Commands\n\n" ++
    String.join (sections.map fun (category, members) =>
      "## " ++ category.heading ++ "\n\n" ++ String.join (members.map (indexLine · marker)) ++ "\n") ++
    "\nType `" ++ marker ++ "help [command-name]` for detailed help on a specific command."

theorem index_eq (marker : String) : index commands marker = indexText (groups commands) marker :=
  rfl

/-- A command of which only the parts are given that place it in a listing. -/
def listed (name description : String) (category : Category) : Command Unit :=
  ⟨name, description, category, [], "", [], true, ()⟩

end Jotter.Help
