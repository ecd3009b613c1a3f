import Jotter.Builtin.Basic
import Jotter.Services
import Jotter.Template

/-!
The `todo` and `template` commands, which insert text into the note being written.
-/

namespace Jotter.Builtin

/-- A checkbox for each item, or an empty one. -/
def todoText : List String → String
  | [] => "- [ ] "
  | items => "\n".intercalate (items.map ("- [ ] " ++ ·)) ++ "\n"

def todo {σ : Type} (marker : String) : Command (Hooks σ) where
  name := "todo"
  description := "Insert todo checkbox items"
  category := .note
  aliases := ["task", "checkbox"]
  usage := marker ++ "todo [item1] [item2] ..."
  arguments := [⟨"items", "Todo items to create", false, none⟩]
  enabled := true
  hooks :=
    { execute := fun items => pure { success := true, insertContent := some (todoText items) }
      validate := none
      provider := none }

/-- The names of the templates, as messages list them. -/
def templateList : String :=
  ", ".intercalate Template.names

def templateVerdict : List String → Verdict
  | [] => .invalid (some ("Please specify a template. Available: " ++ templateList))
  | wanted :: _ =>
    let name := Text.lower wanted
    if (Template.find? name).isSome then .valid
    else .invalid (some ("Unknown template \"" ++ name ++ "\". Available: " ++ templateList))

/-- The text of the template that the first argument names, with the others as its title. -/
def templateResult (now : Moment) (wanted : String) (title : List String) : Except Failure Result := do
  let name := Text.lower wanted
  let text ← Template.renderNamed name now (some (" ".intercalate title))
  return { success := true
           insertContent := some text
           message := some ("Inserted " ++ name ++ " template") }

/-- The templates that the first argument can become, while there is no second one. -/
def templateOffer : List String → List String
  | [] => Template.names
  | [arg] => Template.names.filter (Text.startsWith · (Text.lower arg))
  | _ => []

def template {σ : Type} (services : Services σ) (marker : String) : Command (Hooks σ) where
  name := "template"
  description := "Insert a note template"
  category := .note
  aliases := ["tpl", "tmpl"]
  usage := marker ++ "template <template-name> [title]"
  arguments :=
    [⟨"template", "Template name (" ++ templateList ++ ")", true, none⟩,
     ⟨"title", "Optional title for the template", false, none⟩]
  enabled := true
  hooks :=
    { execute := fun args => do
        let wanted ← firstArgument args
        let now := services.clock (← get).state
        Attempt.ofExcept (templateResult now wanted (args.drop 1))
      validate := some fun args => pure (templateVerdict args)
      provider := some { deferred := false, offer := fun args => pure (some (templateOffer args)) } }

end Jotter.Builtin
