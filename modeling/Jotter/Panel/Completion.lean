import Jotter.Console.Drawn
import Jotter.Console.Theme
import Jotter.Session

/-!
Completions for the terminal prompt: the same suggestions as the panel's, each with the text to insert
and the place where it goes, counted back from the cursor. The names of commands are drawn in the colours
of their categories, which fails for a name that cannot be drawn.
-/

namespace Jotter

/-- A piece of text in a style. -/
structure Fragment where
  style : String
  text : String
  deriving DecidableEq, Repr

structure Completion where
  text : String
  /-- Where the text goes: no more than zero, counted from the cursor. -/
  start : Int
  note : String
  display : List Fragment
  deriving DecidableEq, Repr

namespace Completion

variable {η σ : Type}

/-- How many characters of its document stand before a drawn name. -/
def nameColumn : Nat := 31

/-- The completion of the beginning of a name to a command. -/
def ofCommand (theme : Theme) (marker lead : String) (command : Command η) :
    Except Failure Completion := do
  let name := marker ++ command.name
  let drawn ← Drawn.draw true nameColumn name
  return { text := name ++ " "
           start := -(lead.length + marker.length : Nat)
           note := command.description
           display := [⟨"fg:" ++ theme.categoryColor command.category, drawn⟩] }

/-- The completion of an argument to a value. -/
def ofValue (current value : String) : Completion :=
  { text := value ++ " ", start := -(current.length : Nat), note := "", display := [⟨"", value⟩] }

/-- The completions of the beginning of a name. -/
def forName (theme : Theme) (settings : PanelSettings) (registry : Registry η) (lead : String) :
    Except Failure (List Completion) :=
  (capped settings.commandCap (registry.matching lead)).mapM (ofCommand theme settings.marker lead)

/-- The completions of an argument, given what the provider offers. -/
def forArgument (settings : PanelSettings) (args values : List String) : List Completion :=
  (capped settings.argumentCap values).map (ofValue (Draft.current args))

/-- The text before a cursor, which is counted from the end if it is negative; without a cursor the
whole text. -/
def beforeCursor (text : String) (cursor : Option Int) : Except Failure String :=
  match cursor with
  | none => .ok text
  | some position =>
    if (text.length : Int) < position then .error (.cursorOutside position text.length)
    else .ok (.ofList (capped position text.toList))

/-- The completions at the end of a text. A provider that answers later is left out unless
`canWait` is set; one that fails has none. -/
def complete (theme : Theme) (settings : PanelSettings) (canWait : Bool) (text : String) :
    Attempt (Session σ) (List Completion) := do
  let registry := (← get).registry
  match Draft.read text settings.marker with
  | .none => return []
  | .name lead => Attempt.ofExcept (forName theme settings registry lead)
  | .arguments name args =>
    if name.isEmpty || (Draft.current args).isEmpty then return []
    match registry.resolve? name settings.marker with
    | none => return []
    | some command =>
      match command.hooks.provider with
      | none => return []
      | some provider =>
        if provider.deferred && !canWait then return []
        return forArgument settings args (← ExceptT.lift (Session.valuesOf command args))

end Completion

end Jotter
