/-!
What is printed on the console: lines of markup, documents, panels and tables. Their rendering is the
console's business.
-/

namespace Jotter

structure Table where
  title : String
  columns : List String
  rows : List (List String)
  deriving DecidableEq, Repr

/-- The styles that printed text refers to. -/
inductive Style where
  | success
  | error
  | warning
  | info
  | header
  | primary
  | dim
  | border
  | command
  | accent
  deriving DecidableEq, Repr, Inhabited

namespace Style

def name : Style → String
  | success => "success"
  | error => "error"
  | warning => "warning"
  | info => "info"
  | header => "header"
  | primary => "primary"
  | dim => "dim"
  | border => "border"
  | command => "command"
  | accent => "accent"

/-- A text between the marks of a style. -/
def wrap (style : Style) (text : String) : String :=
  "[" ++ style.name ++ "]" ++ text ++ "[/" ++ style.name ++ "]"

end Style

inductive Printed where
  /-- A line of markup. -/
  | markup (text : String)
  /-- A line in one style, where brackets are plain text. -/
  | plain (text : String) (style : Style)
  | document (source : String)
  /-- A framed text, no wider than it needs to be. -/
  | panel (body title : String) (frame : Style)
  | table (table : Table)
  deriving DecidableEq, Repr

/-- The kinds of one-line messages. -/
inductive MessageKind where
  | success
  | error
  | warning
  | info
  deriving DecidableEq, Repr

namespace MessageKind

/-- The kinds by their names. -/
def names : List (String × MessageKind) :=
  [("success", success), ("error", error), ("warning", warning), ("info", info)]

def ofName? (name : String) : Option MessageKind :=
  names.lookup name

/-- The markup of a one-line message. -/
def render (kind : MessageKind) (text : String) : String :=
  match kind with
  | success => Style.success.wrap ("✓ " ++ text)
  | error => Style.error.wrap ("✗ " ++ text)
  | warning => Style.warning.wrap ("⚠️  " ++ text)
  | info => Style.info.wrap text

end MessageKind

end Jotter
