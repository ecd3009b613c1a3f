import Jotter.Builtin.Basic
import Jotter.Help

/-!
The `help` command. It makes a note of the index of all listed commands or of the page on one of them.
-/

namespace Jotter.Builtin

/-- The note that a call for help makes. -/
def helpResult (listing : Registry Unit) (marker : String) (args : List String) : Result :=
  let note (content : String) : Result :=
    { success := true, createNote := true, noteContent := some content, clearInput := true }
  match args with
  | [] => note (Help.index listing.enabled marker)
  | wanted :: _ =>
    match listing.resolve? wanted marker with
    | some command => note (Help.page command marker)
    | none => .failed ("Command " ++ marker ++ wanted ++ " not found")

/-- The names of the listed commands that the last argument can become. -/
def helpOffer (listing : Registry Unit) (args : List String) : List String :=
  ((listing.matching (args.getLastD "")).map (·.name)).take offerCap

def help {σ : Type} (marker : String) : Command (Hooks σ) where
  name := "help"
  description := "Show available commands or help for a specific command"
  category := .utility
  aliases := ["h", "?"]
  usage := marker ++ "help [command-name]"
  arguments := [⟨"command", "Specific command to get help for", false, none⟩]
  enabled := true
  hooks :=
    { execute := fun args => do return helpResult (← Action.listing) marker args
      validate := none
      provider := some
        { deferred := false
          offer := fun args => do return some (helpOffer (← Action.listing) args) } }

end Jotter.Builtin
