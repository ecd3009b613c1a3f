import Jotter.Number.Floating
import Jotter.Text.Numeral
import Jotter.Text.Quoted

/-!
The values that a settings file holds, and how they are read as text and as integers. A value inside a
list or a mapping is shown with its text between quotation marks. Numbers of all kinds are equal when
they count the same, and so are a flag and the number one or naught.
-/

namespace Jotter

inductive Setting where
  | null
  | flag (value : Bool)
  | integer (value : Int)
  | real (value : Number.Floating)
  | text (value : String)
  | list (items : List Setting)
  | mapping (entries : List (String × Setting))
  deriving Repr, Inhabited

namespace Setting

/-- The name of a value's type, as messages tell it. -/
def typeName : Setting → String
  | null => "NoneType"
  | flag _ => "bool"
  | integer _ => "int"
  | real _ => "float"
  | text _ => "str"
  | list _ => "list"
  | mapping _ => "dict"

/-- Whether a value counts as given: nothing, naught and what is empty do not. -/
def isGiven : Setting → Bool
  | null => false
  | flag value => value
  | integer value => value != 0
  | real value => !value.isZero
  | text value => !value.isEmpty
  | list items => !items.isEmpty
  | mapping entries => !entries.isEmpty

mutual

/-- How a value is shown inside a list or a mapping. -/
def inner : Setting → String
  | null => "None"
  | flag value => if value then "True" else "False"
  | integer value => toString value
  | real value => value.textWith "inf" "nan"
  | text value => Text.quoted value
  | list items => "[" ++ ", ".intercalate (innerItems items) ++ "]"
  | mapping entries => "\x7b" ++ ", ".intercalate (innerEntries entries) ++ "\x7d"

def innerItems : List Setting → List String
  | [] => []
  | item :: items => item.inner :: innerItems items

def innerEntries : List (String × Setting) → List String
  | [] => []
  | (key, value) :: entries => (Text.quoted key ++ ": " ++ value.inner) :: innerEntries entries

end

/-- A value as text. -/
def toText : Setting → String
  | text value => value
  | value => value.inner

/-- A value as an integer: a number loses its fraction, and a text is read. -/
def toInteger : Setting → Except Failure Int
  | flag value => .ok (if value then 1 else 0)
  | integer value => .ok value
  | real (.finite value) => .ok (Number.truncate value)
  | real .negativeZero => .ok 0
  | real (.infinite _) => .error .infiniteInteger
  | real .undefined => .error .undefinedInteger
  | text value => Text.integer value
  | value => .error (.noInteger value.typeName)

/-- The entry of a key; only a mapping has entries. -/
def entry? (key : String) : Setting → Option Setting
  | mapping entries => entries.lookup key
  | _ => none

/-- The value at a path of keys. -/
def at? : Setting → List String → Option Setting
  | value, [] => some value
  | value, key :: keys => (value.entry? key).bind (·.at? keys)

/-- The members of a value: the items of a list, the keys of a mapping or the characters of a text.
What does not count as given has none. -/
def members : Setting → Except Failure (List Setting)
  | list items => .ok items
  | mapping entries => .ok (entries.map fun entry => text entry.1)
  | text value => .ok (value.toList.map fun c => text c.toString)
  | value => if value.isGiven then .error (.noEntries value.typeName) else .ok []

/-- Puts an entry in the place of the one of its key, or else at the end. -/
def put (key : String) (value : Setting) : List (String × Setting) → List (String × Setting)
  | [] => [(key, value)]
  | entry :: entries =>
    if entry.1 = key then (key, value) :: entries else entry :: put key value entries

/-! ### Equality -/

/-- What a value counts for, if it is a number or a flag. -/
def number? : Setting → Option Number.Floating
  | flag value => some (.finite (if value then 1 else 0))
  | integer value => some (.finite value)
  | real value => some value
  | _ => none

/-- Whether a value is the number that is none. -/
def isUndefined : Setting → Bool
  | real .undefined => true
  | _ => false

mutual

/-- Whether two values are equal. The order of the entries of a mapping does not count. -/
def sameAs : Setting → Setting → Bool
  | null, other => match other with
    | null => true
    | _ => false
  | text value, other => match other with
    | text otherValue => value == otherValue
    | _ => false
  | list items, other => match other with
    | list others => sameItems items others
    | _ => false
  | mapping entries, other => match other with
    | mapping others => entries.length == others.length && sameEntries entries others
    | _ => false
  | value, other =>
    match value.number?, other.number? with
    | some x, some y => x.sameAs y
    | _, _ => false

/-- Whether lists are equal item by item; inside a list the number that is none equals itself. -/
def sameItems : List Setting → List Setting → Bool
  | [], others => others.isEmpty
  | item :: items, others => match others with
    | [] => false
    | other :: others =>
      (item.sameAs other || item.isUndefined && other.isUndefined) && sameItems items others

/-- Whether every entry of the first mapping is in the second. -/
def sameEntries : List (String × Setting) → List (String × Setting) → Bool
  | [], _ => true
  | (key, value) :: entries, others =>
    (match others.lookup key with
      | some other => value.sameAs other || value.isUndefined && other.isUndefined
      | none => false) && sameEntries entries others

end

/-- Whether two values are equal as items of a list. -/
def isLike (a b : Setting) : Bool :=
  a.sameAs b || a.isUndefined && b.isUndefined

end Setting

end Jotter
