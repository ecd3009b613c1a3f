import Jotter.Builtin.Basic
import Jotter.Calendar.Epoch
import Jotter.Schedule.Resolution
import Jotter.Services

/-!
The `reminder` command. Its first argument is a time expression and the others are the message.
-/

namespace Jotter.Builtin

/-- What is told when the time or the message is missing. -/
def reminderUsage (marker : String) : String :=
  "Please provide both time and message.\n" ++
  "Usage: " ++ marker ++ "reminder <time> <message>\n\n" ++
  timeFormatHelp ++ "\n\n" ++
  "Examples:\n" ++
  "  " ++ marker ++ "reminder 5m Check the oven\n" ++
  "  " ++ marker ++ "reminder tomorrow Call mom\n" ++
  "  " ++ marker ++ "reminder 2:30pm Team meeting"

/-- What is told of a time that is not understood. -/
def unreadableTime (time : String) : String :=
  "Could not parse time: \"" ++ time ++ "\""

/-- Whether the arguments of a reminder are a time that is understood and a message. -/
def reminderVerdict (marker : String) (now : Moment) : List String → Except Failure Verdict
  | time :: _ :: _ => do
    match ← dueTime time now with
    | some _ => return .valid
    | none => return .invalid (some (unreadableTime time ++ "\n" ++ timeFormatHelp))
  | _ => return .invalid (some (reminderUsage marker))

/-- Stores a reminder and tells when it is due. -/
def setReminder {σ : Type} (services : Services σ) (args : List String) : Action σ Result := do
  let now := services.clock (← get).state
  let time ← firstArgument args
  match ← Attempt.ofExcept (dueTime time now) with
  | none => return .failed (unreadableTime time)
  | some due =>
    let message := " ".intercalate (args.drop 1)
    let notebook := (← Action.context).notebook
    let dueAt ← Attempt.ofExcept due.epochMillis
    let _ ← Action.onState (services.createReminder message dueAt notebook)
    let told ← Attempt.ofExcept (dueText due now)
    return { success := true
             message := some ("Reminder set: \"" ++ message ++ "\" - " ++ told)
             clearInput := true }

def reminder {σ : Type} (services : Services σ) (marker : String) : Command (Hooks σ) where
  name := "reminder"
  description := "Set a reminder"
  category := .utility
  aliases := ["remind", "r"]
  usage := marker ++ "reminder <time> <message>"
  arguments :=
    [⟨"time", "When to remind (5m, 2h, 1d, tomorrow, monday, 2:30pm, \"in 30 minutes\")", true, none⟩,
     ⟨"message", "What to be reminded about", true, none⟩]
  enabled := true
  hooks :=
    { execute := setReminder services
      validate := some fun args => do
        let now := services.clock (← get).state
        Attempt.ofExcept (reminderVerdict marker now args)
      provider := none }

end Jotter.Builtin
