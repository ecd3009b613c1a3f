import Jotter.CommandLine.Request
import Jotter.Composer.Conversation
import Jotter.Console.Escape
import Jotter.Help
import Jotter.Settings.Cache

/-!
The run of a command line, and what comes of it: the exit status, the plain output, what was printed on
the console and the prompts that were shown. A task that fails ends with the status one, misuse with
two. Terminal controls are left out of the plain output.
-/

namespace Jotter

structure Report where
  status : Nat := 0
  output : String := ""
  complaints : String := ""
  printed : List Printed := []
  prompts : List Prompt := []
  deriving DecidableEq, Repr

namespace Report

/-- What the program tells of its version. -/
def versionText : String :=
  "wren, version 0.4.0\n"

/-- The plain output of a text: it ends with a line break. -/
def outputText (text : String) : String :=
  let text := if text.toList.getLast? = some '\n' then text else text ++ "\n"
  Escape.strip text

/-- A failure as it is told outside the console. -/
def complaint (failure : Failure) : String :=
  Escape.strip ("Error: " ++ failure.message ++ "\n")

/-- The report on a task that failed. -/
def failed (failure : Failure) : Report :=
  { status := 1, complaints := complaint failure }

/-- The report on a composer that could not start or was broken off: failures that a conversation
survives are told on the console. -/
def brokenOff (printed : List Printed) (prompts : List Prompt) (failure : Failure) : Report :=
  if failure.isRecoverable then
    { status := 1
      complaints := "Aborted!\n"
      printed := printed ++ [.plain ("Error: " ++ failure.message) .error]
      prompts := prompts }
  else { status := 1, complaints := complaint failure, printed := printed, prompts := prompts }

/-- The first of two texts that is given and not empty. -/
def firstGiven (a b : Option String) : Option String :=
  (a.filter (!·.isEmpty)).orElse fun _ => b

/-! ### Tasks -/

/-- The outcome of a step on the configurations. -/
def outcomeOf {α : Type} (step : Attempt SettingsCache α) : StateM SettingsCache (Except Failure α) :=
  step.run

/-- A conversation in a new composer, ready to begin. -/
def conversation (order : Order) (notebook : Option String) (now : Moment) :
    Attempt SettingsCache (Conversation Desk) := do
  let settings ← SettingsCache.composerSettings order.config
  let composer ←
    SettingsCache.composer order.config order.vault (firstGiven notebook order.notebook) now
  return .start settings.toPanelSettings composer

def compose (order : Order) (notebook : Option String) (theme : Theme) (turns : List Turn)
    (now : Moment) : StateM SettingsCache Report := do
  match ← outcomeOf (conversation order notebook now) with
  | .error failure => return brokenOff [] [] failure
  | .ok begun =>
    let (outcome, ended) := (Conversation.run Desk.services theme turns).run.run begun
    match outcome with
    | .ok () => return { printed := ended.composer.printed, prompts := ended.prompts }
    | .error failure => return brokenOff ended.composer.printed ended.prompts failure

/-- The command line that words make: the marker is put before it unless it is there. -/
def commandText (marker : String) (words : List String) : String :=
  let text := " ".intercalate words
  if Text.startsWith (Text.trimLeft text) marker then text else marker ++ Text.trimLeft text

/-- The report on a command that was run in a composer. -/
def ofRun (outcome : Except Failure (Option Result)) (composer : Composer Desk) : Report :=
  match outcome with
  | .error failure => { failed failure with printed := composer.printed }
  | .ok none => { status := 1, printed := composer.printed }
  | .ok (some result) =>
    if result.success then
      { output := if result.insertContent.isSome then outputText composer.buffer else ""
        printed := composer.printed }
    else { status := 1, printed := composer.printed }

def run (order : Order) (words : List String) (now : Moment) : StateM SettingsCache Report := do
  match ← outcomeOf (SettingsCache.composer order.config order.vault order.notebook now) with
  | .error failure => return failed failure
  | .ok composer =>
    let text := commandText composer.session.marker words
    let (outcome, composer) := (Composer.runCommand Desk.services text).run.run composer
    return ofRun outcome composer

/-- The report on a listing of commands. -/
def ofListing (category : Option Category) (asDocument : Bool) (composer : Composer Desk) : Report :=
  let registry := composer.session.registry
  let marker := composer.session.marker
  let commands :=
    match category with
    | none => registry.enabled
    | some category => registry.inCategory category
  if asDocument then { output := Escape.strip (Help.index commands marker ++ "\n") }
  else { printed := [.table (Help.table commands marker)] }

def list (order : Order) (category : Option Category) (asDocument : Bool) (now : Moment) :
    StateM SettingsCache Report := do
  match ← outcomeOf (SettingsCache.composer order.config none none now) with
  | .error failure => return failed failure
  | .ok composer => return ofListing category asDocument composer

/-! ### Command lines -/

/-- The report on what words came to; `perform` takes up what they ask for. -/
def ofReading {α : Type} (perform : α → StateM SettingsCache Report) :
    Reading α → StateM SettingsCache Report
  | .misuse => return { status := 2 }
  | .version => return { output := versionText }
  | .help => return {}
  | .asks wanted => perform wanted

/-- The report on a task. The theme is read first; without one the standard theme is in force. -/
def ofOrder (turns : List Turn) (now : Moment) (order : Order) : StateM SettingsCache Report := do
  let theme : Theme := match ← outcomeOf (SettingsCache.activeTheme order.config) with
    | .ok theme => theme
    | .error _ => .standard
  ofReading (fun task =>
    match task with
    | .compose notebook => compose order notebook theme turns now
    | .run words => run order words now
    | .list category asDocument => list order category asDocument now) order.task

/-- The report on a command line; `turns` is what is typed if the composer starts. -/
def ofArguments (arguments : List String) (turns : List Turn) (now : Moment) :
    StateM SettingsCache Report := do
  match Reading.ofArguments (← get).surroundings.folder arguments with
  | .error failure => return failed failure
  | .ok reading => ofReading (ofOrder turns now) reading

end Report

end Jotter
