import Jotter.Text.Quoted

/-!
What can go wrong, as causes, and how each cause is told to the user. A hook or a collaborator may
also report a fault of its own; its family decides whether the prompt loop survives it.
-/

namespace Jotter

/-- The kinds of trouble that are told apart when a failure is handled. -/
inductive Family where
  | storage
  | lookup
  | value
  | other
  deriving DecidableEq, Repr, Inhabited

/-- Trouble that a hook or a collaborator reports under a label of its own. -/
structure Fault where
  label : String
  family : Family
  message : String
  deriving DecidableEq, Repr, Inhabited

inductive Failure where
  /-- A command was registered under a name of white space only. -/
  | blankName
  /-- A command was registered under a name that another one holds. -/
  | nameTaken (name claimedBy : String)
  /-- A history without room for an entry was asked for. -/
  | historySize (size : Int)
  /-- A history of more entries than can be counted was asked for. -/
  | historyTooLarge (size : Int)
  | unknownTemplate (name : String)
  /-- No notebook has this label; `shown` is the label as a listing shows it. -/
  | unknownNotebook (shown : String)
  /-- A handler was called without an argument that it needs. -/
  | missingArgument
  /-- A date before the year 1 or after the year 9999. -/
  | dateOutOfRange
  /-- A time span of more than 999999999 days. -/
  | durationOutOfRange (days : Nat)
  | yearOutOfRange (year : Nat)
  /-- A numeral of more than 4300 digits. -/
  | numeralTooLong (digits : Nat)
  /-- The handler of a command failed. -/
  | execution (command : String) (args : List String) (cause : Failure)
  | reported (fault : Fault)
  | missingFile (path : String)
  | directoryGiven (path : String)
  | malformedDocument
  /-- A document holds a character, told by its code, that may not stand in one. -/
  | unreadableDocument (path : String) (code position : Nat)
  | notAMapping (path : String)
  | emptyPath
  | badMarker (marker : String)
  | notAnInteger (text : String)
  /-- A setting of a type that no integer can be made from. -/
  | noInteger (type : String)
  /-- An integer was asked of an infinity. -/
  | infiniteInteger
  /-- An integer was asked of what is no number. -/
  | undefinedInteger
  /-- A setting of a type that is no file name. -/
  | noFileName (type : String)
  /-- A path begins at a home directory that is not known. -/
  | unknownHome
  /-- A setting of a type that holds no entries. -/
  | noEntries (type : String)
  /-- A setting of a type that cannot name a theme. -/
  | noThemeName (type : String)
  | unnamedComponent
  /-- A category that there is not; `shown` is how it was named. -/
  | unknownCategory (shown : String)
  /-- A notebook whose name is of a type that is no text. -/
  | nameWithoutCase (type : String)
  /-- A name or a value holds the character that ends texts. -/
  | nullInName
  /-- A variable under a name with an equals sign was to be set. -/
  | badVariableName
  /-- A variable without a name was to be set. -/
  | emptyVariableName
  | nameTooLong (path : String)
  /-- A character that cannot be drawn on the terminal. -/
  | badCharacter (line column : Nat)
  /-- A cursor behind the end of its text. -/
  | cursorOutside (cursor : Int) (length : Nat)
  deriving DecidableEq, Repr, Inhabited

namespace Failure

/-- The largest count of days that is told. -/
def largestCount : Nat := 2147483647

/-- The words in which a failure is told. A failed look-up tells the key between quotation marks. -/
def message : Failure → String
  | blankName => "Command name cannot be empty"
  | nameTaken name claimedBy => "'" ++ name ++ "' is already claimed by command /" ++ claimedBy
  | historySize size => "History size must be at least 1, got " ++ toString size
  | historyTooLarge _ => "Python int too large to convert to C ssize_t"
  | unknownTemplate name => Text.quoted name
  | unknownNotebook shown => Text.quoted ("No notebook with id " ++ shown)
  | missingArgument => "list index out of range"
  | dateOutOfRange => "date value out of range"
  | durationOutOfRange days =>
    if days ≤ largestCount then "days=" ++ toString days ++ "; must have magnitude <= 999999999"
    else "Python int too large to convert to C int"
  | yearOutOfRange year => "year " ++ toString year ++ " is out of range"
  | numeralTooLong digits =>
    "Exceeds the limit (4300 digits) for integer string conversion: value has " ++ toString digits ++
      " digits; use sys.set_int_max_str_digits() to increase the limit"
  | execution command _ cause => "Failed to execute /" ++ command ++ ": " ++ cause.message
  | reported fault =>
    match fault.family with
    | .lookup => Text.quoted fault.message
    | _ => fault.message
  | missingFile path => "Configuration file not found: " ++ path
  | directoryGiven path => "[Errno 21] Is a directory: " ++ Text.quoted path
  | malformedDocument => "Error parsing YAML configuration"
  | unreadableDocument path code position =>
    "Error parsing YAML configuration: unacceptable character #x" ++
      .ofList (Text.hexadecimal 4 code) ++ ": special characters are not allowed\n  in \"" ++ path ++
      "\", position " ++ toString position
  | notAMapping path => "Configuration file must contain a mapping: " ++ path
  | emptyPath => "Configuration path cannot be empty or None"
  | badMarker marker =>
    "commands.marker must be a single non-whitespace character, got " ++ Text.quoted marker
  | notAnInteger text =>
    "invalid literal for int() with base 10: " ++ .ofList ((Text.quoted text).toList.take 200)
  | noInteger type =>
    "int() argument must be a string, a bytes-like object or a real number, not '" ++ type ++ "'"
  | infiniteInteger => "cannot convert float infinity to integer"
  | undefinedInteger => "cannot convert float NaN to integer"
  | noFileName type => "expected str, bytes or os.PathLike object, not " ++ type
  | unknownHome => "Could not determine home directory."
  | noEntries type => "'" ++ type ++ "' object is not iterable"
  | noThemeName type => "unhashable type: '" ++ type ++ "'"
  | unnamedComponent =>
    "Component name is required. Usage: get_logger('component_name') or " ++
      "get_logger(name='custom_name', color='blue')"
  | unknownCategory shown => shown ++ " is not a valid CommandCategory"
  | nameWithoutCase type => "'" ++ type ++ "' object has no attribute 'lower'"
  | nullInName => "embedded null byte"
  | badVariableName => "illegal environment variable name"
  | emptyVariableName => "[Errno 22] Invalid argument"
  | nameTooLong path => "[Errno 36] File name too long: " ++ Text.quoted path
  | badCharacter line column =>
    "not well-formed (invalid token): line " ++ toString line ++ ", column " ++ toString column
  | cursorOutside cursor length =>
    "cursor_position=" ++ toString cursor ++ ", len_text=" ++ toString length

/-- The family of a failure. A failed handler counts as none of the three, whatever its cause. -/
def family : Failure → Family
  | missingFile _ | directoryGiven _ | nameTooLong _ | emptyVariableName => .storage
  | unknownTemplate _ | unknownNotebook _ => .lookup
  | blankName | nameTaken _ _ | historySize _ | yearOutOfRange _ | numeralTooLong _ | notAMapping _
  | emptyPath | badMarker _ | notAnInteger _ | undefinedInteger | unnamedComponent
  | unknownCategory _ | nullInName | badVariableName => .value
  | reported fault => fault.family
  | _ => .other

/-- Whether the prompt loop tells the failure and goes on. -/
def isRecoverable (failure : Failure) : Bool :=
  failure.family != .other

end Failure

end Jotter
