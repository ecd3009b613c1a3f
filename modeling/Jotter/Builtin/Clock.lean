import Jotter.Builtin.Basic
import Jotter.Calendar.Timestamp
import Jotter.Services

/-!
The `ping` command, which shows that commands work, and the `timestamp` command, which inserts the
current time.
-/

namespace Jotter.Builtin

def ping {σ : Type} (marker : String) : Command (Hooks σ) where
  name := "ping"
  description := "Test if commands are working"
  category := .utility
  aliases := ["test"]
  usage := marker ++ "ping"
  arguments := []
  enabled := true
  hooks :=
    { execute := fun _ => pure
        { success := true
          insertContent := some "Pong! Commands are working. "
          message := some "Commands are working!" }
      validate := none
      provider := none }

/-- The inserted time, in the style that the first argument names. -/
def timestampResult (now : Moment) (args : List String) : Except Failure Result := do
  let text ← (TimestampStyle.ofName (args.headD "short")).render now
  return { success := true, insertContent := some (text ++ " ") }

/-- The styles that the last argument can become. -/
def timestampOffer (args : List String) : List String :=
  let lead := Text.lower (args.getLastD "")
  (TimestampStyle.all.map (·.name)).filter (Text.startsWith · lead)

def timestamp {σ : Type} (services : Services σ) (marker : String) : Command (Hooks σ) where
  name := "timestamp"
  description := "Insert current timestamp"
  category := .utility
  aliases := ["time", "now", "ts"]
  usage := marker ++ "timestamp [format]"
  arguments := [⟨"format", "Date format (iso, short, long, time, date)", false, some "short"⟩]
  enabled := true
  hooks :=
    { execute := fun args => do
        let now := services.clock (← get).state
        Attempt.ofExcept (timestampResult now args)
      validate := none
      provider := some { deferred := false, offer := fun args => pure (some (timestampOffer args)) } }

end Jotter.Builtin
