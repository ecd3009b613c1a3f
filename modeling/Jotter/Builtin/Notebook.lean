import Jotter.Builtin.Basic
import Jotter.Services

/-!
The `notebook` command, which makes another notebook the active one and tells the session so.
-/

namespace Jotter.Builtin

/-- The name of a notebook; only one that is a text can be compared. -/
def nameText (notebook : Notebook) : Except Failure String :=
  match notebook.name with
  | .text name => .ok name
  | label => .error (.nameWithoutCase label.typeName)

/-- The first notebook of a name, in any case. The names before it have to be texts. -/
def findNotebook? (wanted : String) : List Notebook → Except Failure (Option Notebook)
  | [] => .ok none
  | notebook :: notebooks => do
    if Text.lower (← nameText notebook) == Text.lower wanted then return some notebook
    findNotebook? wanted notebooks

/-- The names of the notebooks that hold a text, in any case. All names have to be texts. -/
def similarNotebooks (notebooks : List Notebook) (wanted : String) : Except Failure (List String) := do
  let names ← notebooks.mapM nameText
  return names.filter fun name => Text.occursIn (Text.lower wanted) (Text.lower name)

/-- What is told of a name that no notebook has; `similar` are names like it. -/
def notebookMissing (similar : List String) (wanted : String) : String :=
  "Notebook \"" ++ wanted ++ "\" not found." ++
    (if similar.isEmpty then "" else " Did you mean: " ++ ", ".intercalate similar ++ "?")

/-- Makes the notebook that the arguments name the active one. -/
def switchNotebook {σ : Type} (services : Services σ) (args : List String) : Action σ Result := do
  let wanted := " ".intercalate args
  let notebooks ← Action.onState services.listNotebooks
  match ← Attempt.ofExcept (findNotebook? wanted notebooks) with
  | none => return .failed (notebookMissing (← Attempt.ofExcept (similarNotebooks notebooks wanted)) wanted)
  | some notebook =>
    Action.onState (services.setActiveNotebook notebook.id)
    Action.setNotebook notebook.id
    return { success := true
             message := some ("Switched to notebook: " ++ notebook.name.toText)
             clearInput := true }

def notebook {σ : Type} (services : Services σ) (marker : String) : Command (Hooks σ) where
  name := "notebook"
  description := "Switch to a different notebook"
  category := .notebook
  aliases := ["nb", "switch"]
  usage := marker ++ "notebook <notebook-name>"
  arguments := [⟨"notebook", "Name of the notebook to switch to", true, none⟩]
  enabled := true
  hooks :=
    { execute := switchNotebook services
      validate := some <| requireArgument
        ("Please provide a notebook name. Usage: " ++ marker ++ "notebook <name>")
      provider := some
        { deferred := true
          offer := fun args => do
            if args.isEmpty then return some []
            let notebooks ← Action.onState services.listNotebooks
            let similar ← Attempt.ofExcept (similarNotebooks notebooks (" ".intercalate args))
            return some (similar.take offerCap) } }

end Jotter.Builtin
