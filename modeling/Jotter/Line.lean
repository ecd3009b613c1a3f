import Jotter.Text.Blank
import Jotter.Text.Search

/-!
What a typed line is. A line that begins with the command marker is a command; a doubled marker
escapes it, so that a note can begin with the marker. A command that is run is cut into tokens, where
quotation marks hold white space together; a command that is still being typed is cut at white space
only, and keeps an empty entry at a blank edge.
-/

namespace Jotter

/-- The marker of commands unless another one is chosen. -/
def defaultMarker : String := "/"

/-- The name and the arguments of a command that is run. -/
structure Invocation where
  name : String
  args : List String
  deriving DecidableEq, Repr, Inhabited

namespace Invocation

def isEmpty (invocation : Invocation) : Bool :=
  invocation.name.isEmpty

/-- The first token is the name and the others are the arguments. -/
def ofTokens : List String → Invocation
  | [] => ⟨"", []⟩
  | name :: args => ⟨name, args⟩

/-- The tokens of an invocation. -/
def tokens (invocation : Invocation) : List String :=
  if invocation.isEmpty then [] else invocation.name :: invocation.args

end Invocation

namespace Line

def isQuote (c : Char) : Bool :=
  c == '"' || c == '\x27'

/-- The tokens of a row of characters, read inside the quotation opened by `quote` or outside any,
with the token `held` (backwards) already begun. A quotation without an end goes to the end of the
row; a token is never empty. -/
def scanTokens : (quote : Option Char) → (held : List Char) → List Char → List (List Char)
  | _, held, [] => if held.isEmpty then [] else [held.reverse]
  | none, held, c :: cs =>
    if isQuote c then scanTokens (some c) held cs
    else if Text.isBlank c then
      if held.isEmpty then scanTokens none [] cs else held.reverse :: scanTokens none [] cs
    else scanTokens none (c :: held) cs
  | some quote, held, c :: cs =>
    if c = quote then scanTokens none held cs else scanTokens (some quote) (c :: held) cs

/-- The line without its margins and without one marker at its beginning. -/
def body (raw marker : String) : String :=
  Text.dropLead (Text.trim raw) marker

/-- The invocation that a line describes. -/
def parse (raw marker : String) : Invocation :=
  .ofTokens ((scanTokens none [] (body raw marker).toList).map .ofList)

/-- Whether a line is a command: it begins with the marker, but not with the marker twice. -/
def isCommand (text marker : String) : Bool :=
  let line := Text.trimLeft text
  Text.startsWith line marker && !Text.startsWith line (marker ++ marker)

/-- The entries of a command that is still being typed; none for a line that is no command. -/
def draftFields? (text marker : String) : Option (List String) :=
  if isCommand text marker then
    some (Text.fields (Text.dropLead (Text.trimLeft text) marker))
  else none

end Line

/-- What a line that is being typed asks suggestions for. -/
inductive Draft where
  /-- The line is no command. -/
  | none
  /-- The name of the command is being typed. -/
  | name (lead : String)
  /-- An argument is being typed, the last one of `args`; it may still be empty. -/
  | arguments (name : String) (args : List String)
  deriving DecidableEq, Repr, Inhabited

namespace Draft

/-- The draft that a row of entries describes. -/
def ofFields : Option (List String) → Draft
  | some [lead] => .name lead
  | some (command :: args) => .arguments command args
  | _ => .none

def read (text marker : String) : Draft :=
  ofFields (Line.draftFields? text marker)

/-- The argument being typed: the last one. -/
def current (args : List String) : String :=
  args.getLastD ""

end Draft

end Jotter
