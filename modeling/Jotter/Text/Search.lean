/-!
Beginnings and occurrences of one text in another, compared character by character.
-/

namespace Jotter.Text

/-- Whether the first text begins with the second. -/
def startsWith (s lead : String) : Bool :=
  lead.toList.isPrefixOf s.toList

/-- The text without one occurrence of `lead` at its beginning, if it has one there. -/
def dropLead (s lead : String) : String :=
  if startsWith s lead then .ofList (s.toList.drop lead.length) else s

/-- Whether `needle` occurs in the characters, in one piece. -/
def occursInChars (needle : List Char) : List Char → Bool
  | [] => needle.isEmpty
  | c :: cs => needle.isPrefixOf (c :: cs) || occursInChars needle cs

/-- Whether `needle` occurs in the text, in one piece. -/
def occursIn (needle text : String) : Bool :=
  occursInChars needle.toList text.toList

theorem startsWith_iff {s lead : String} : startsWith s lead = true ↔ lead.toList <+: s.toList := by
  simp [startsWith]

theorem occursInChars_iff {needle cs : List Char} :
    occursInChars needle cs = true ↔ needle <:+: cs := by
  induction cs with
  | nil => simp [occursInChars]
  | cons c cs ih =>
    simp only [occursInChars, Bool.or_eq_true, List.isPrefixOf_iff_prefix, ih]
    exact List.infix_cons_iff.symm

theorem occursIn_iff {needle text : String} :
    occursIn needle text = true ↔ needle.toList <:+: text.toList :=
  occursInChars_iff

end Jotter.Text
