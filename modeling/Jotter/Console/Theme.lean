import Jotter.Command.Basic
import Jotter.Console.Printed

/-!
Colour themes: a palette, the console styles made from it and the colours of the command categories.
-/

namespace Jotter

/-- The colours of a theme. The colours of errors and warnings, of plain text and of frames are the
same in every theme. -/
structure Theme where
  error : String := "#ff5f5f"
  warning : String := "#ffaa00"
  success : String := "#6b8e23"
  info : String := "#87ceeb"
  header : String := "#b8860b"
  text : String := "#ffffff"
  dimText : String := "#777777"
  border : String := "#555555"
  note : String := "#8fbc8f"
  notebook : String := "#87ceeb"
  tag : String := "#d2b48c"
  search : String := "#c9a0dc"
  utility : String := "#ffffff"
  deriving DecidableEq, Repr

namespace Theme

def standard : Theme := {}

def dusk : Theme where
  success := "#a2ae9d"
  info := "#9988a1"
  header := "#9988a1"
  note := "#a2ae9d"
  notebook := "#9988a1"
  tag := "#f0b8b8"
  search := "#c75f71"

/-- The theme of a name; an unknown name means the standard theme. -/
def ofName (name : String) : Theme :=
  if name = "dusk" then dusk else standard

/-- The colour of a category, that of plain text if it has none of its own. -/
def categoryColor (theme : Theme) : Category → String
  | .note => theme.note
  | .notebook => theme.notebook
  | .tag => theme.tag
  | .search => theme.search
  | .utility => theme.utility
  | .sync | .custom => theme.text

/-- How a style is drawn. -/
def style (theme : Theme) : Style → String
  | .success => "bold " ++ theme.success
  | .error => "bold " ++ theme.error
  | .warning => "bold " ++ theme.warning
  | .info => theme.info
  | .header => "bold " ++ theme.header
  | .primary => theme.text
  | .dim => theme.dimText
  | .border => theme.border
  | .command => theme.note
  | .accent => theme.tag

end Theme

end Jotter
