import Jotter.Text.Search
import Jotter.Text.Split

/-!
The options of a command line. A long option is written after two dashes, with its value behind an
equals sign or in the next word; short ones are letters after one dash, where a value may follow its
letter directly. Two dashes alone end the options. What is not known, and a value that is missing or not
wanted, is misuse.
-/

namespace Jotter

inductive OptionKey where
  | config
  | vault
  | notebook
  | version
  | help
  | category
  | markdown
  deriving DecidableEq, Repr, Inhabited

/-- How an option is written, and whether it takes a value. -/
structure OptionForm where
  key : OptionKey
  long : String
  short : Option Char
  takesValue : Bool
  deriving DecidableEq, Repr

/-- The options that were given, in order, and the words that are left. -/
structure Options where
  given : List (OptionKey × String)
  words : List String
  deriving DecidableEq, Repr

namespace Options

/-- The value of an option; the last one given counts. -/
def value? (options : Options) (key : OptionKey) : Option String :=
  (options.given.reverse.find? (·.1 == key)).map (·.2)

def has (options : Options) (key : OptionKey) : Bool :=
  (options.value? key).isSome

/-- One option before others. -/
def withOption (key : OptionKey) (value : String) (options : Options) : Options :=
  { options with given := (key, value) :: options.given }

/-- The options that a word gives, and the one among them whose value is the next word. -/
structure Word where
  given : List (OptionKey × String)
  wanting : Option OptionKey
  deriving DecidableEq, Repr

/-- Reads what follows the two dashes of a long option. -/
def readLong? (forms : List OptionForm) (body : List Char) : Option Word :=
  let name : String := .ofList (body.takeWhile (· != '='))
  match forms.find? (·.long == name), body.dropWhile (· != '=') with
  | none, _ => none
  | some form, [] => some (if form.takesValue then ⟨[], some form.key⟩ else ⟨[(form.key, "")], none⟩)
  | some form, _ :: value =>
    if form.takesValue then some ⟨[(form.key, .ofList value)], none⟩ else none

/-- Reads the letters after the dash of short options. -/
def readShort? (forms : List OptionForm) : List Char → Option Word
  | [] => some ⟨[], none⟩
  | c :: cs =>
    match forms.find? (·.short == some c) with
    | none => none
    | some form =>
      if form.takesValue then
        some (if cs.isEmpty then ⟨[], some form.key⟩ else ⟨[(form.key, .ofList cs)], none⟩)
      else (readShort? forms cs).map fun word => { word with given := (form.key, "") :: word.given }

/-- Reads a command line. Unless `interspersed` is set, the first word that is no option ends the
options. -/
def read? (forms : List OptionForm) (interspersed : Bool) : List String → Option Options
  | [] => some ⟨[], []⟩
  | word :: words =>
    match word.toList with
    | ['-', '-'] => some ⟨[], words⟩
    | '-' :: c :: cs =>
      match if c = '-' then readLong? forms cs else readShort? forms (c :: cs) with
      | none => none
      | some ⟨given, none⟩ =>
        (read? forms interspersed words).map fun rest => { rest with given := given ++ rest.given }
      | some ⟨given, some key⟩ =>
        match words with
        | [] => none
        | value :: words =>
          (read? forms interspersed words).map fun rest =>
            { rest with given := given ++ (key, value) :: rest.given }
    | _ =>
      if interspersed then
        (read? forms interspersed words).map fun rest => { rest with words := word :: rest.words }
      else some ⟨[], word :: words⟩

end Options

end Jotter
