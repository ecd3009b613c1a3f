import Jotter.Builtin.Basic
import Jotter.Services

/-!
The `tag` command, which inserts hashtags and offers the tags already in use.
-/

namespace Jotter.Builtin

/-- A text without one number sign at its beginning. -/
def bareTag (tag : String) : String :=
  Text.dropLead tag "#"

/-- The hashtags for the arguments, each followed by a blank. -/
def tagText (args : List String) : String :=
  " ".intercalate (args.map fun arg => "#" ++ bareTag (Text.trim arg)) ++ " "

def tagResult (args : List String) : Result where
  success := true
  insertContent := some (tagText args)
  message := some ("Added " ++ toString args.length ++ " tag(s)")

/-- The tags in use that hold the last argument, in any case. -/
def tagOffer (known : List String) (args : List String) : List String :=
  let part := bareTag (Text.lower (args.getLastD ""))
  ((known.filter fun tag => Text.occursIn part (Text.lower tag)).map bareTag).take offerCap

def tag {σ : Type} (services : Services σ) (marker : String) : Command (Hooks σ) where
  name := "tag"
  description := "Add tags to your note"
  category := .tag
  aliases := ["t"]
  usage := marker ++ "tag <tag1> [tag2] [tag3] ..."
  arguments := [⟨"tags", "One or more tags to add (without #)", true, none⟩]
  enabled := true
  hooks :=
    { execute := fun args => pure (tagResult args)
      validate := some <| requireArgument
        ("Please provide at least one tag. Usage: " ++ marker ++ "tag <tag1> [tag2] ...")
      provider := some
        { deferred := true
          offer := fun args => do
            if args.isEmpty then return some []
            return some (tagOffer (← Action.onState services.listTags) args) } }

end Jotter.Builtin
