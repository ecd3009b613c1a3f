import Jotter.Settings.Value

/-!
The written form of values: JSON, with words for the numbers that are not finite. A numeral with a fraction
or an exponent is a floating-point number and any other one an integer. A half of a pair of escapes that
stands without the other half is passed over, and of two entries with one key the later one counts.
-/

namespace Jotter.Written

def isBlank (c : Char) : Bool :=
  c == ' ' || c == '\t' || c == '\n' || c == '\r'

def skipBlanks (cs : List Char) : List Char :=
  cs.dropWhile isBlank

/-! ### Texts -/

/-- The value of a digit in base sixteen. -/
def hexDigit? (c : Char) : Option Nat :=
  if c.isDigit then some (c.toNat - 48)
  else if 'a' ≤ c && c ≤ 'f' then some (c.toNat - 87)
  else if 'A' ≤ c && c ≤ 'F' then some (c.toNat - 55)
  else none

/-- The number that four digits in base sixteen write. -/
def unit? (a b c d : Char) : Option Nat := do
  let a ← hexDigit? a
  let b ← hexDigit? b
  let c ← hexDigit? c
  let d ← hexDigit? d
  return ((a * 16 + b) * 16 + c) * 16 + d

/-- The character that an escaped number means, after the first half of a pair or none; the second
part is the first half that it leaves behind. -/
def unitMeaning (high : Option Nat) (unit : Nat) : List Char × Option Nat :=
  if 0xD800 ≤ unit && unit < 0xDC00 then ([], some unit)
  else if 0xDC00 ≤ unit && unit < 0xE000 then
    (match high with
      | some high => [.ofNat (0x10000 + (high - 0xD800) * 1024 + (unit - 0xDC00))]
      | none => [], none)
  else ([.ofNat unit], none)

/-- The character that a letter means behind a backslash. -/
def escapeMeaning? (c : Char) : Option Char :=
  match c with
  | '"' | '\\' | '/' => some c
  | 'b' => some '\x08'
  | 'f' => some '\x0c'
  | 'n' => some '\n'
  | 'r' => some '\r'
  | 't' => some '\t'
  | _ => none

/-- Reads a text up to its closing mark, after the characters `held` (backwards). -/
def readText (high : Option Nat) (held : List Char) : List Char → Option (String × List Char)
  | [] => none
  | '"' :: cs => some (.ofList held.reverse, cs)
  | '\\' :: 'u' :: a :: b :: c :: d :: cs =>
    match unit? a b c d with
    | none => none
    | some unit =>
      let (meant, high) := unitMeaning high unit
      readText high (meant ++ held) cs
  | '\\' :: c :: cs =>
    match escapeMeaning? c with
    | none => none
    | some meant => readText none (meant :: held) cs
  | c :: cs => readText none (c :: held) cs

/-- How a character stands in a text. -/
def charForm (c : Char) : List Char :=
  if c = '"' || c = '\\' then ['\\', c]
  else if c.toNat < 0x20 then '\\' :: 'u' :: Text.hexadecimal 4 c.toNat
  else [c]

def textForm (s : String) : String :=
  .ofList ('"' :: s.toList.flatMap charForm ++ ['"'])

/-! ### Numbers and words -/

def isFigure (c : Char) : Bool :=
  c.isDigit || c == '.' || c == 'e' || c == 'E' || c == '+' || c == '-'

/-- Reads a row of digits as a number, after a sign or none. -/
def signed? : List Char → Option Int
  | '-' :: digits => (unsigned? digits).map (- ·)
  | '+' :: digits => unsigned? digits
  | digits => unsigned? digits
where
  unsigned? (digits : List Char) : Option Int :=
    if digits.isEmpty || !digits.all Char.isDigit then none else some (Text.decimalValue digits)

/-- Reads the exponent of a numeral; without one it is naught. -/
def exponent? : List Char → Option Int
  | [] => some 0
  | mark :: cs => if mark == 'e' || mark == 'E' then signed? cs else none

/-- The number that a numeral without its sign writes. -/
def numeral? (negative : Bool) (cs : List Char) : Option Setting :=
  let whole := cs.takeWhile Char.isDigit
  let rest := cs.dropWhile Char.isDigit
  let value := Text.decimalValue whole
  if whole.isEmpty then none
  else
    match rest with
    | [] => some (.integer (if negative then -value else value))
    | '.' :: rest =>
      let part := rest.takeWhile Char.isDigit
      (exponent? (rest.dropWhile Char.isDigit)).map fun exponent =>
        .real (.ofDecimal negative (Text.decimalValue (whole ++ part)) (exponent - part.length))
    | rest => (exponent? rest).map fun exponent => .real (.ofDecimal negative value exponent)

/-- The words for values. -/
def words : List (String × Setting) :=
  [("null", .null), ("true", .flag true), ("false", .flag false),
   ("NaN", .real .undefined), ("Infinity", .real (.infinite false)),
   ("-Infinity", .real (.infinite true))]

/-- Reads a word or a numeral. -/
def readPlain (cs : List Char) : Option (Setting × List Char) :=
  match words.find? fun word => word.1.toList.isPrefixOf cs with
  | some (word, value) => some (value, cs.drop word.length)
  | none =>
    let figures := cs.takeWhile isFigure
    let value? :=
      match figures with
      | '-' :: figures => numeral? true figures
      | figures => numeral? false figures
    value?.map fun value => (value, cs.drop figures.length)

/-! ### Values -/

/-- The entries of a mapping that were read one after the other (backwards). -/
def gathered (held : List (String × Setting)) : List (String × Setting) :=
  held.foldr (fun entry entries => Setting.put entry.1 entry.2 entries) []

mutual

/-- Reads a value; the second part is what is left. `fuel` bounds the values that are read. -/
def read : (fuel : Nat) → List Char → Option (Setting × List Char)
  | 0, _ => none
  | fuel + 1, cs =>
    match skipBlanks cs with
    | '"' :: cs => (readText none [] cs).map fun (value, rest) => (.text value, rest)
    | '[' :: cs =>
      match skipBlanks cs with
      | ']' :: rest => some (.list [], rest)
      | _ => (readItems fuel [] cs).map fun (items, rest) => (.list items, rest)
    | '\x7b' :: cs =>
      match skipBlanks cs with
      | '\x7d' :: rest => some (.mapping [], rest)
      | _ => (readEntries fuel [] cs).map fun (entries, rest) => (.mapping entries, rest)
    | cs => readPlain cs

/-- Reads the items of a list behind those that are `held` (backwards), with its closing mark. -/
def readItems : (fuel : Nat) → (held : List Setting) → List Char →
    Option (List Setting × List Char)
  | 0, _, _ => none
  | fuel + 1, held, cs =>
    match read fuel cs with
    | none => none
    | some (item, cs) =>
      match skipBlanks cs with
      | ',' :: cs => readItems fuel (item :: held) cs
      | ']' :: rest => some ((item :: held).reverse, rest)
      | _ => none

/-- Reads the entries of a mapping behind those that are `held` (backwards), with its closing
mark. -/
def readEntries : (fuel : Nat) → (held : List (String × Setting)) → List Char →
    Option (List (String × Setting) × List Char)
  | 0, _, _ => none
  | fuel + 1, held, cs =>
    match read fuel cs with
    | some (.text key, cs) =>
      match skipBlanks cs with
      | ':' :: cs =>
        match read fuel cs with
        | none => none
        | some (value, cs) =>
          match skipBlanks cs with
          | ',' :: cs => readEntries fuel ((key, value) :: held) cs
          | '\x7d' :: rest => some (gathered ((key, value) :: held), rest)
          | _ => none
      | _ => none
    | _ => none

end

end Jotter.Written

namespace Jotter.Setting

/-- The value that a text writes. -/
def ofWritten? (s : String) : Option Setting :=
  match Written.read (s.length + 1) s.toList with
  | some (value, rest) => if rest.all Written.isBlank then some value else none
  | none => none

mutual

/-- How a value is written. -/
def written : Setting → String
  | null => "null"
  | flag value => if value then "true" else "false"
  | integer value => toString value
  | real value => value.textWith "Infinity" "NaN"
  | text value => Written.textForm value
  | list items => "[" ++ ",".intercalate (writtenItems items) ++ "]"
  | mapping entries => "\x7b" ++ ",".intercalate (writtenEntries entries) ++ "\x7d"

def writtenItems : List Setting → List String
  | [] => []
  | item :: items => item.written :: writtenItems items

def writtenEntries : List (String × Setting) → List String
  | [] => []
  | (key, value) :: entries =>
    (Written.textForm key ++ ":" ++ value.written) :: writtenEntries entries

end

end Jotter.Setting
