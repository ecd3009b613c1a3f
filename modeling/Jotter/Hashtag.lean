import Jotter.Text.Alphanumeric
import Jotter.Text.Case

/-!
Hashtags in the text of a note: a number sign that follows neither a word character nor another number
sign, with the word characters and hyphens after it.
-/

namespace Jotter.Hashtag

/-- Whether a character may stand in a tag. -/
def isTagChar (c : Char) : Bool :=
  Text.isWordChar c || c == '-'

/-- Whether a number sign after this character, or at the beginning, can open a tag. -/
def canFollow : Option Char → Bool
  | none => true
  | some c => !(Text.isWordChar c || c == '#')

/-- The tag that a character opens between `previous` and `after`, as it is written; none if it is empty. -/
def opened (previous : Option Char) (c : Char) (after : List Char) : List Char :=
  if c == '#' && canFollow previous then after.takeWhile isTagChar else []

/-- The tags of a row of characters that follows `previous`, as they are written. The first `taken` of the
characters belong to a tag that is found already; the search goes on behind them. -/
def writtenFrom : (previous : Option Char) → (taken : Nat) → List Char → List (List Char)
  | _, _, [] => []
  | _, taken + 1, c :: cs => writtenFrom (some c) taken cs
  | previous, 0, c :: cs =>
    match opened previous c cs with
    | [] => writtenFrom (some c) 0 cs
    | d :: run => (d :: run) :: writtenFrom (some c) (run.length + 1) cs

/-- The tags of a text in lower case, each once, in the order in which they first occur. -/
def extract (content : String) : List String :=
  ((writtenFrom none 0 content.toList).map fun run => Text.lower (.ofList run)).eraseDups

end Jotter.Hashtag
