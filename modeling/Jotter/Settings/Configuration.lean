import Jotter.Composer.Creation
import Jotter.Console.Theme
import Jotter.Files.Folder
import Jotter.Log
import Jotter.Settings.Reference
import Jotter.Settings.Written

/-!
Configurations: the settings of a file laid over the standing ones, and what is read from them. A
setting of the file stands in for the one below it, except that mappings are laid over each other entry
by entry.
-/

namespace Jotter

/-- What a settings file holds. -/
inductive Document where
  | data (value : Setting)
  | malformed
  /-- A character stands in it that may not; the position counts the characters before it. -/
  | unreadable (c : Char) (position : Nat)
  deriving Repr, Inhabited

namespace Document

def isLineBreak (c : Char) : Bool :=
  c == '\n' || c == '\r' || c.toNat == 0x85 || c.toNat == 0x2028 || c.toNat == 0x2029

/-- Whether a text consists of blank lines and comments; `atStart` tells whether nothing but spaces
stands before it on the line. -/
def isVoid (atStart : Bool) : List Char → Bool
  | [] => true
  | c :: cs =>
    if isLineBreak c then isVoid true cs
    else if atStart then
      if c = ' ' then isVoid true cs else c == '#' && isVoid false cs
    else isVoid false cs

/-- Whether a character may stand in a document. -/
def isAllowed (c : Char) : Bool :=
  let n := c.toNat
  c == '\t' || isLineBreak c || (0x20 ≤ n && n ≤ 0x7E) || (0xA0 ≤ n && n ≤ 0xFFFD) || 0x10000 ≤ n

/-- The characters of a text without a mark of the byte order at its beginning. -/
def withoutMark : List Char → List Char
  | [] => []
  | c :: cs => if c.toNat = 0xFEFF then cs else c :: cs

/-- The characters of a text with one line feed for each of its line breaks. -/
def withLineFeeds : List Char → List Char
  | [] => []
  | '\r' :: '\n' :: cs => '\n' :: withLineFeeds cs
  | c :: cs => (if c = '\r' then '\n' else c) :: withLineFeeds cs

/-- The first character that may not stand in a document, with the number of characters before it. -/
def forbidden? (position : Nat) : List Char → Option (Char × Nat)
  | [] => none
  | c :: cs => if isAllowed c then forbidden? (position + 1) cs else some (c, position)

/-- What a text holds: nothing, if it consists of blank lines and comments, or else the value that it
writes. Tabs are no blanks here. -/
def ofText (text : String) : Document :=
  let cs := withLineFeeds text.toList
  match forbidden? 0 cs with
  | some (c, position) => unreadable c position
  | none =>
    if isVoid true (withoutMark cs) then data .null
    else if cs.contains '\t' then malformed
    else
      match Setting.ofWritten? text with
      | some value => data value
      | none => malformed

/-- The settings in a document, which has to be a mapping or empty. `path` is where it is. -/
def entries (path : String) : Document → Except Failure (List (String × Setting))
  | data .null => .ok []
  | data (.mapping entries) => .ok entries
  | data _ => .error (.notAMapping path)
  | malformed => .error .malformedDocument
  | unreadable c position => .error (.unreadableDocument path c.toNat position)

end Document

namespace Setting

mutual

/-- Lays a value over another one. -/
def overlay (base : Setting) : Setting → Setting
  | mapping entries =>
    match base with
    | mapping below => mapping (overlayEntries below entries)
    | _ => mapping entries
  | value => value

/-- Lays entries over others, one after the other. -/
def overlayEntries (below : List (String × Setting)) :
    List (String × Setting) → List (String × Setting)
  | [] => below
  | (key, value) :: entries =>
    let value :=
      match below.lookup key with
      | some base => overlay base value
      | none => value
    overlayEntries (put key value below) entries

end

end Setting

/-- The settings in force, and the file that they come from, if there is one. -/
structure Configuration where
  path : Option String
  content : Setting
  deriving Repr, Inhabited

namespace Configuration

/-- The settings that stand unless a file says otherwise. -/
def standing : List (String × Setting) :=
  [("commands", .mapping [("marker", .text "/"), ("history_size", .integer 50)]),
   ("autocomplete", .mapping
    [("max_command_suggestions", .integer 6), ("max_argument_suggestions", .integer 5)]),
   ("vault", .mapping [("path", .null), ("notebook", .null), ("notebooks", .list [.text "Inbox"])]),
   ("cli", .mapping [("theme", .text "default")]),
   ("logging", .mapping
    [("level", .text "INFO"), ("rich_tracebacks", .flag true), ("show_traceback_locals", .flag false),
     ("show_full_paths", .flag false),
     ("logging_colors", .mapping
      [("commands", .text "cyan"), ("autocomplete", .text "magenta"), ("history", .text "blue"),
       ("composer", .text "green"), ("cli", .text "white")])])]

/-- The configuration without a file. -/
def standard : Configuration :=
  ⟨none, .mapping standing⟩

/-- The configuration of a document at a path. -/
def ofDocument (environment : Environment) (path : String) (document : Document) :
    Except Failure Configuration := do
  let entries ← document.entries path
  let own := Setting.expandEntries environment entries
  return ⟨some path, .mapping (Setting.overlayEntries standing own)⟩

/-- The value at a path of keys with points between them. -/
def value? (configuration : Configuration) (path : String) : Option Setting :=
  configuration.content.at? (Text.split '.' path)

def value (configuration : Configuration) (path : String) (fallback : Setting) : Setting :=
  (configuration.value? path).getD fallback

/-! ### What is read from a configuration -/

/-- Whether a text can mark commands: one character that is not blank. -/
def isMarker (text : String) : Bool :=
  match text.toList with
  | [c] => !Text.isBlank c
  | _ => false

theorem exists_of_isMarker {text : String} (htext : isMarker text = true) :
    ∃ c, text.toList = [c] ∧ Text.isBlank c = false := by
  rw [isMarker] at htext
  split at htext
  · rename_i c hc
    exact ⟨c, hc, by simpa using htext⟩
  · cases htext

theorem not_isBlank_of_isMarker {text : String} (htext : isMarker text = true) :
    ∀ c ∈ text.toList, Text.isBlank c = false := by
  obtain ⟨c, hc, hblank⟩ := exists_of_isMarker htext
  rw [hc]
  intro d hd
  rwa [List.mem_singleton.1 hd]

/-- The choices for a composer. -/
def composerSettings (configuration : Configuration) : Except Failure ComposerSettings := do
  let marker := (configuration.value "commands.marker" (.text "/")).toText
  let historySize ← (configuration.value "commands.history_size" (.integer 50)).toInteger
  let commandCap ←
    (configuration.value "autocomplete.max_command_suggestions" (.integer 6)).toInteger
  let argumentCap ←
    (configuration.value "autocomplete.max_argument_suggestions" (.integer 5)).toInteger
  if isMarker marker then
    return { marker := marker, commandCap := some commandCap, argumentCap := some argumentCap
             historySize := historySize }
  else throw (.badMarker marker)

/-- The colour theme; what is no name of a theme means the standard one. -/
def theme (configuration : Configuration) : Except Failure Theme :=
  match configuration.value "cli.theme" (.text "default") with
  | .text name => .ok (.ofName name)
  | .list _ => .error (.noThemeName (Setting.list []).typeName)
  | .mapping _ => .error (.noThemeName (Setting.mapping []).typeName)
  | _ => .ok .standard

/-- The level from which log lines are kept; `fallback` holds if there is no name of a level, and the
level of information if the name is not known. -/
def logLevel (configuration : Configuration) (fallback : Int) : Int :=
  match configuration.value "logging.level" .null with
  | .text name => ((LogLevel.ofName? name).getD .info).number
  | _ => fallback

/-- The colour of a component in log lines. -/
def logColor (configuration : Configuration) (component : String) : Setting :=
  let color := configuration.value ("logging.logging_colors." ++ component) .null
  if color.isGiven then color else .text LogSource.defaultColor

/-- The directory of the vault. -/
def vaultPath (configuration : Configuration) (homes : Homes) :
    Except Failure (Option String) :=
  match configuration.value "vault.path" .null with
  | .null => .ok none
  | .text path => do
    let path ← (FilePath.ofText path).expandHome homes
    return some path.text
  | value => .error (.noFileName value.typeName)

/-- The notebook to start in. -/
def notebook (configuration : Configuration) : Setting :=
  configuration.value "vault.notebook" .null

/-- The notebooks of a new vault. -/
def notebooks (configuration : Configuration) : Except Failure (List Setting) :=
  (configuration.value "vault.notebooks" (.list [])).members

end Configuration

end Jotter
