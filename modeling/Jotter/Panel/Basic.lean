import Jotter.Command.Registry

/-!
The suggestion panel under the input. Every change of the text makes the panel show the commands that
its beginning can become, or the values for the argument being typed, or nothing. Values come from a
provider, which may answer later: the request for them carries the generation of the panel, which
counts the changes of the text, and an answer is taken only while the panel is still of that generation.
-/

namespace Jotter

/-- The kinds of lists that a panel shows. -/
inductive Mode where
  | idle
  | commandName
  | arguments
  deriving DecidableEq, Repr, Inhabited

def Mode.label : Mode → String
  | idle => "idle"
  | commandName => "command_name"
  | arguments => "arguments"

/-- One entry of a panel: the name of a command or a value for an argument of it. -/
structure Suggestion (η : Type) where
  value : String
  command : Command η
  kind : Mode

/-- A request for the values of an argument, sent when the panel was of a generation. -/
structure Request (η : Type) where
  generation : Nat
  command : Command η
  args : List String

/-- What a provider came to: it may fail, and its values may be missing. -/
abbrev Offer := Except Failure (Option (List String))

/-- The values of an offer, where a failure counts as none. -/
def Offer.values : Offer → List String
  | .ok values => values.getD []
  | .error _ => []

/-- What a provider says when it is asked. -/
inductive Answer where
  /-- There is no provider, or it failed. -/
  | silent
  | now (values : List String)
  | later
  deriving DecidableEq, Repr

/-- The keys that a visible panel acts on. -/
inductive Key where
  | up
  | down
  | tab
  | escape
  | other
  deriving DecidableEq, Repr

/-- The key of a name; keys that a panel does not act on are not told apart. -/
def Key.ofName : String → Key
  | "up" => up
  | "down" => down
  | "tab" => tab
  | "escape" => escape
  | _ => other

/-- The choices that hold as long as a panel lives. -/
structure PanelSettings where
  marker : String := defaultMarker
  commandCap : Option Int := some 6
  argumentCap : Option Int := some 5
  deriving DecidableEq, Repr

structure Panel (η : Type) where
  settings : PanelSettings
  text : String := ""
  mode : Mode := .idle
  suggestions : List (Suggestion η) := []
  /-- The place of the highlighted entry. -/
  index : Nat := 0
  /-- The command whose argument is being typed. -/
  command? : Option (Command η) := none
  generation : Nat := 0
  dismissed : Bool := false

namespace Panel

variable {η : Type}

def visible (panel : Panel η) : Bool :=
  !panel.suggestions.isEmpty && !panel.dismissed

/-- The highlighted entry of a visible panel. -/
def selected? (panel : Panel η) : Option (Suggestion η) :=
  if panel.visible then panel.suggestions[panel.index]? else none

/-! ### Changes of the text -/

/-- The panel with nothing to show. -/
def reset (panel : Panel η) : Panel η :=
  { panel with mode := .idle, suggestions := [], command? := none }

/-- The panel with the commands that a text can become. -/
def showNames (panel : Panel η) (registry : Registry η) (lead : String) : Panel η :=
  { panel with
    mode := .commandName
    suggestions := (capped panel.settings.commandCap (registry.matching lead)).map fun command =>
      ⟨command.name, command, .commandName⟩
    command? := none }

/-- The panel for an argument of a command, without values yet. -/
def showArguments (panel : Panel η) (command : Command η) : Panel η :=
  { panel with mode := .arguments, suggestions := [], command? := some command }

/-- What the panel shows for a draft before any provider has answered. -/
def present (panel : Panel η) (registry : Registry η) : Draft → Panel η
  | .none => panel.reset
  | .name lead => panel.showNames registry lead
  | .arguments name _ =>
    if name.isEmpty then panel.reset
    else
      match registry.resolve? name panel.settings.marker with
      | some command => panel.showArguments command
      | none => panel.reset

/-- The panel of the next generation, for a new text: nothing is highlighted or hidden any more. -/
def renew (panel : Panel η) (text : String) : Panel η :=
  { panel with
    text := text
    index := 0
    generation := panel.generation + 1
    dismissed := false }

/-- The panel for a new text before any provider has answered. -/
def focus (panel : Panel η) (registry : Registry η) (text : String) : Panel η :=
  (panel.renew text).present registry (Draft.read text panel.settings.marker)

/-- The request for values that a panel has: none between arguments. -/
def request? (panel : Panel η) : Option (Request η) :=
  match panel.command?, Draft.read panel.text panel.settings.marker with
  | some command, .arguments _ args =>
    if (Draft.current args).isEmpty then none else some ⟨panel.generation, command, args⟩
  | _, _ => none

/-- The panel with the values of a command put in; what it is about does not change. -/
def install (panel : Panel η) (command : Command η) (values : List String) : Panel η :=
  { panel with
    suggestions := (capped panel.settings.argumentCap values).map fun value =>
      ⟨value, command, .arguments⟩
    index := 0 }

/-- The panel for a new text, and the request that is still to be answered. `ask` calls the provider
of a command. -/
def update {m : Type → Type} [Monad m] (ask : Command η → List String → m Answer)
    (panel : Panel η) (registry : Registry η) (text : String) : m (Panel η × Option (Request η)) := do
  let panel := panel.focus registry text
  match panel.request? with
  | none => return (panel, none)
  | some request =>
    match ← ask request.command request.args with
    | .silent => return (panel, none)
    | .now values => return (panel.install request.command values, none)
    | .later => return (panel, some request)

/-- Takes the answer to a request, unless the text has changed since; tells whether it was taken. -/
def deliver (panel : Panel η) (request : Request η) (values : List String) : Panel η × Bool :=
  if request.generation = panel.generation then (panel.install request.command values, true)
  else (panel, false)

/-! ### Keys -/

/-- Moves the highlight down, from the last entry to the first. -/
def moveDown (panel : Panel η) : Panel η :=
  if panel.visible then
    { panel with index := (panel.index + 1) % panel.suggestions.length }
  else panel

/-- Moves the highlight up, from the first entry to the last. -/
def moveUp (panel : Panel η) : Panel η :=
  if panel.visible then
    { panel with
      index := (panel.index + panel.suggestions.length - 1) % panel.suggestions.length }
  else panel

/-- Hides the panel until the text changes. -/
def dismiss (panel : Panel η) : Panel η :=
  { panel with dismissed := true }

/-- The text without the run of characters at its end that are not blank. -/
def withoutLastToken (text : String) : String :=
  .ofList (text.toList.reverse.dropWhile (!Text.isBlank ·)).reverse

/-- The text that accepting the highlighted entry makes; the panel itself does not change. -/
def accept? (panel : Panel η) : Option String :=
  panel.selected?.map fun suggestion =>
    match suggestion.kind with
    | .commandName => panel.settings.marker ++ suggestion.command.name ++ " "
    | _ => withoutLastToken panel.text ++ suggestion.value ++ " "

/-- What a key press does to a panel, whether it acted on it, and the text that it makes. -/
def press (panel : Panel η) (key : Key) : Panel η × Bool × Option String :=
  if panel.visible then
    match key with
    | .down => (panel.moveDown, true, none)
    | .up => (panel.moveUp, true, none)
    | .tab => (panel, true, panel.accept?)
    | .escape => (panel.dismiss, true, none)
    | .other => (panel, false, none)
  else (panel, false, none)

/-- The place in the usage line for the argument being typed. -/
def hint? (panel : Panel η) : Option String :=
  match panel.mode, panel.command?, Draft.read panel.text panel.settings.marker with
  | .arguments, some command, .arguments _ args => command.placeholders[args.length - 1]?
  | _, _, _ => none

end Panel

end Jotter
