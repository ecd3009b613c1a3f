import Jotter.Text.Case

/-!
Log lines. A component logs under its name in title case, in a style that its colour and the kind of
the line make.
-/

namespace Jotter

/-- The kinds of log lines. -/
inductive LogKind where
  /-- A milestone. -/
  | milestone
  | info
  | debug
  | warning
  | error
  | success
  /-- The duration of something. -/
  | timing
  | critical
  /-- An error with the trace of where it arose. -/
  | traced
  deriving DecidableEq, Repr, Inhabited

/-- The levels by which log lines are filtered. -/
inductive LogLevel where
  | all
  | debug
  | info
  | warning
  | error
  | critical
  deriving DecidableEq, Repr, Inhabited

namespace LogLevel

def number : LogLevel → Nat
  | all => 0
  | debug => 10
  | info => 20
  | warning => 30
  | error => 40
  | critical => 50

/-- The capital of an ASCII letter; the dotless i and the long s have ASCII capitals as well. -/
def capital (c : Char) : Char :=
  if c = 'ı' then 'I' else if c = 'ſ' then 'S' else c.toUpper

/-- The names of the levels, in capitals. -/
def names : List (String × LogLevel) :=
  [("NOTSET", all), ("DEBUG", debug), ("INFO", info), ("WARN", warning), ("WARNING", warning),
    ("ERROR", error), ("CRITICAL", critical), ("FATAL", critical)]

/-- The level of a name, in any case. -/
def ofName? (name : String) : Option LogLevel :=
  names.lookup (.ofList (name.toList.map capital))

end LogLevel

namespace LogKind

/-- The kinds by their names. -/
def names : List (String × LogKind) :=
  [("key_info", milestone), ("info", info), ("debug", debug), ("warning", warning), ("error", error),
    ("success", success), ("timing", timing), ("critical", critical), ("exception", traced)]

def ofName? (name : String) : Option LogKind :=
  names.lookup name

def level : LogKind → LogLevel
  | milestone | info | success | timing => .info
  | debug => .debug
  | warning => .warning
  | error | traced => .error
  | critical => .critical

/-- The style of a line; only lines without a colour of their own take that of the component. -/
def style (color : String) : LogKind → String
  | milestone => "bold " ++ color
  | info => color
  | debug => "dim " ++ color
  | warning => "bold yellow"
  | error | critical | traced => "bold red"
  | success => "bold green"
  | timing => "bold white"

/-- The sign before a line. -/
def sign : LogKind → String
  | milestone | info => ""
  | debug => "🔍 "
  | warning => "⚠️  "
  | error | critical | traced => "❌ "
  | success => "✅ "
  | timing => "🕒 "

end LogKind

/-- A log line as it is handed on. -/
structure LogLine where
  level : LogLevel
  text : String
  withTrace : Bool
  deriving DecidableEq, Repr

/-- Where log lines come from: a component and its colour. -/
structure LogSource where
  component : String
  color : String
  deriving DecidableEq, Repr

namespace LogSource

def defaultColor : String := "white"

/-- The line that a source makes of a message. -/
def line (source : LogSource) (kind : LogKind) (message : String) : LogLine :=
  let style := kind.style source.color
  { level := kind.level
    text := "[" ++ style ++ "]" ++ kind.sign ++ Text.title source.component ++ ": " ++ message ++
      "[/" ++ style ++ "]"
    withTrace := kind == .traced }

end LogSource

end Jotter
