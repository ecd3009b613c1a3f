/-!
White space, and the two ways of cutting a text at it. `words` forgets where the white space was;
`fields` keeps an empty entry at an edge that is blank, so that a reader can tell whether the last
entry is still being written. The string functions are the list functions on the characters.
-/

namespace Jotter.Text

/-- The white space of every script, the four separator controls `U+001C` to `U+001F` included. -/
def isBlank (c : Char) : Bool :=
  let n := c.toNat
  (9 ≤ n && n ≤ 13) || (28 ≤ n && n ≤ 32) || n == 0x85 || n == 0xA0 || n == 0x1680 ||
    (0x2000 ≤ n && n ≤ 0x200A) || n == 0x2028 || n == 0x2029 || n == 0x202F || n == 0x205F ||
    n == 0x3000

def trimLeftChars (cs : List Char) : List Char :=
  cs.dropWhile isBlank

def trimRightChars (cs : List Char) : List Char :=
  (cs.reverse.dropWhile isBlank).reverse

/-- The characters without the white space at either end. -/
def trimChars (cs : List Char) : List Char :=
  trimRightChars (trimLeftChars cs)

/-- The entries between runs of white space; a blank edge leaves an empty entry. -/
def fieldsChars : List Char → List (List Char)
  | [] => [[]]
  | c :: cs =>
    if isBlank c then
      match cs with
      | [] => [[], []]
      | d :: _ => if isBlank d then fieldsChars cs else [] :: fieldsChars cs
    else
      match fieldsChars cs with
      | [] => [[c]]
      | field :: rest => (c :: field) :: rest

/-- The maximal runs of characters that are not blank. -/
def wordsChars (cs : List Char) : List (List Char) :=
  (fieldsChars cs).filter (!·.isEmpty)

def trimLeft (s : String) : String :=
  .ofList (trimLeftChars s.toList)

def trim (s : String) : String :=
  .ofList (trimChars s.toList)

def trimRight (s : String) : String :=
  .ofList (trimRightChars s.toList)

def fields (s : String) : List String :=
  (fieldsChars s.toList).map .ofList

def words (s : String) : List String :=
  (wordsChars s.toList).map .ofList

/-- Whether a text is not empty and holds white space only. -/
def isBlankText (s : String) : Bool :=
  !s.isEmpty && s.toList.all isBlank

@[simp]
theorem toList_trimLeft (s : String) : (trimLeft s).toList = trimLeftChars s.toList := by
  simp [trimLeft]

@[simp]
theorem toList_trim (s : String) : (trim s).toList = trimChars s.toList := by
  simp [trim]

@[simp]
theorem toList_trimRight (s : String) : (trimRight s).toList = trimRightChars s.toList := by
  simp [trimRight]

theorem fieldsChars_ne_nil (cs : List Char) : fieldsChars cs ≠ [] := by
  fun_induction fieldsChars cs <;> simp_all

end Jotter.Text
