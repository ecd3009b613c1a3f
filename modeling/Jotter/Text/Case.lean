import Jotter.Text.CaseTables

/-!
Lower case and title case of a text. A capital sigma is lowered by its place: at the end of a word,
that is after a cased character and not before one, it becomes the final sigma. Characters that are
neither here nor there (marks, the apostrophe) are skipped when its neighbours are looked up.
-/

namespace Jotter.Text

/-- The image of a code point under the first run that holds it, or else itself. -/
def imageIn (runs : List (Nat × Nat × Nat × Nat)) (n : Nat) : Nat :=
  match runs.find? fun (first, last, step, _) => first ≤ n && n ≤ last && (n - first) % step == 0 with
  | some (first, _, _, image) => image + (n - first)
  | none => n

def isCased (c : Char) : Bool :=
  if c.toNat < 128 then c.isAlpha else inRanges casedRanges c

def isCaseIgnorable (c : Char) : Bool :=
  inRanges caseIgnorableRanges c

/-- The lower-case form of a character on its own. -/
def lowerForm (c : Char) : List Char :=
  if c.toNat < 128 then [c.toLower]
  else if c.toNat = 0x130 then ['i', Char.ofNat 0x307]
  else [Char.ofNat (imageIn lowerRuns c.toNat)]

/-- The title-case form of a character on its own. -/
def titleForm (c : Char) : List Char :=
  if c.toNat < 128 then [c.toUpper]
  else match titleExpansions.lookup c.toNat with
    | some form => form.map Char.ofNat
    | none => [Char.ofNat (imageIn titleRuns c.toNat)]

/-- Whether the nearest character that is not skipped has a case. -/
def meetsCased (cs : List Char) : Bool :=
  match cs.dropWhile isCaseIgnorable with
  | [] => false
  | c :: _ => isCased c

/-- The lower-case form of a character that stands after `before` (read backwards) and before
`after`. -/
def lowerAt (before : List Char) (c : Char) (after : List Char) : List Char :=
  if c = 'Σ' then
    if meetsCased before && !meetsCased after then ['ς'] else ['σ']
  else lowerForm c

/-- The lower case of a text, after the characters `before` (read backwards). -/
def lowerFrom (before : List Char) : List Char → List Char
  | [] => []
  | c :: after => lowerAt before c after ++ lowerFrom (c :: before) after

def lowerChars (cs : List Char) : List Char :=
  lowerFrom [] cs

/-- The lower case of a text. -/
def lower (s : String) : String :=
  .ofList (lowerChars s.toList)

/-- The title case of a text, after the characters `before` (read backwards): a character after a
cased one is lowered, every other one takes its title-case form. -/
def titleFrom (before : List Char) : List Char → List Char
  | [] => []
  | c :: after =>
    let form :=
      match before with
      | [] => titleForm c
      | previous :: _ => if isCased previous then lowerAt before c after else titleForm c
    form ++ titleFrom (c :: before) after

/-- The title case of a text. -/
def title (s : String) : String :=
  .ofList (titleFrom [] s.toList)

theorem lowerAt_ne_nil (before : List Char) (c : Char) (after : List Char) :
    lowerAt before c after ≠ [] := by
  unfold lowerAt lowerForm
  split <;> split <;> simp
  split <;> simp

/-- Lower case takes no character away. -/
theorem lower_eq_empty {s : String} : lower s = "" ↔ s = "" := by
  rw [← String.toList_eq_nil_iff, ← String.toList_eq_nil_iff (b := s), lower, String.toList_ofList,
    lowerChars]
  cases s.toList with
  | nil => simp [lowerFrom]
  | cons c cs => simp [lowerFrom, lowerAt_ne_nil]

@[simp]
theorem toList_lower (s : String) : (lower s).toList = lowerChars s.toList := by
  simp [lower]

end Jotter.Text
