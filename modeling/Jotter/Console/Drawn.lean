import Jotter.Failure

/-!
Text that is drawn with styles on the terminal. It is handed over inside a marked document: there some
characters stand as references, control characters cannot stand at all, and every line break counts as
one line feed. What goes wrong is told by its place in the document.
-/

namespace Jotter.Drawn

/-- Whether a character cannot stand in a document. -/
def isForbidden (c : Char) : Bool :=
  let n := c.toNat
  (n < 0x20 && n != 0x09 && n != 0x0A && n != 0x0D) || n == 0xFFFE || n == 0xFFFF

/-- How many characters of a document a character takes; single quotation marks are references only
where they are quoted. -/
def width (quotesSingle : Bool) (c : Char) : Nat :=
  if c = '&' then 5
  else if c = '<' || c = '>' then 4
  else if c = '"' || (c = '\x27' && quotesSingle) then 6
  else 1

/-- The characters as they are drawn, when the first of them stands at a line and a column. -/
def drawFrom (width : Char → Nat) (line column : Nat) : List Char → Except Failure (List Char)
  | [] => .ok []
  | '\r' :: '\n' :: cs => (drawFrom width (line + 1) 0 cs).map ('\n' :: ·)
  | c :: cs =>
    if c = '\n' || c = '\r' then (drawFrom width (line + 1) 0 cs).map ('\n' :: ·)
    else if isForbidden c then .error (.badCharacter line column)
    else (drawFrom width line (column + width c) cs).map (c :: ·)

/-- A text as it is drawn behind so many characters of its document. -/
def draw (quotesSingle : Bool) (column : Nat) (text : String) : Except Failure String :=
  (drawFrom (width quotesSingle) 1 column text.toList).map .ofList

end Jotter.Drawn
