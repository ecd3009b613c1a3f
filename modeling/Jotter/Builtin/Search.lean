import Jotter.Builtin.Basic
import Jotter.Services

/-!
The `search` command, which counts the notes with a text or, for a single hashtag, with a tag.
-/

namespace Jotter.Builtin

/-- What is asked of the search service. -/
inductive SearchQuery where
  | text (query : String)
  | tag (name : String)
  deriving DecidableEq, Repr

/-- The query that the arguments describe: a single one that begins with a number sign names a tag. -/
def SearchQuery.ofArguments (args : List String) : SearchQuery :=
  match args with
  | [arg] =>
    if Text.startsWith arg "#" && 1 < arg.length then .tag (Text.dropLead arg "#") else .text arg
  | _ => .text (" ".intercalate args)

/-- What is told of the number of notes found. -/
def searchMessage (found : Nat) (query : String) : String :=
  if found = 0 then "No notes found matching \"" ++ query ++ "\""
  else "Found " ++ toString found ++ " note(s) matching \"" ++ query ++ "\""

/-- Looks for notes and tells how many there are. -/
def searchNotes {σ : Type} (services : Services σ) (args : List String) : Action σ Result := do
  let path := (← Action.context).vaultPath
  let notes ← match SearchQuery.ofArguments args with
    | .tag name => Action.onState (services.searchByTag path name)
    | .text query => Action.onState (services.searchNotes path query)
  return { success := true
           message := some (searchMessage notes.length (" ".intercalate args))
           clearInput := true }

def search {σ : Type} (services : Services σ) (marker : String) : Command (Hooks σ) where
  name := "search"
  description := "Search notes by query or #tag"
  category := .search
  aliases := ["find", "s"]
  usage := marker ++ "search <query>"
  arguments := [⟨"query", "Search query, or a single #tag", true, none⟩]
  enabled := true
  hooks :=
    { execute := searchNotes services
      validate := some <| requireArgument
        ("Please provide a search query. Usage: " ++ marker ++ "search <query>")
      provider := none }

end Jotter.Builtin
