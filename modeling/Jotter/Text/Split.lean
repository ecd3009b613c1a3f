/-!
Cutting a text at a separator. There is one part more than there are separators; parts may be empty.
-/

namespace Jotter.Text

/-- The parts of a row of characters between separators. -/
def splitChars (separator : Char) : List Char → List (List Char)
  | [] => [[]]
  | c :: cs =>
    if c = separator then [] :: splitChars separator cs
    else
      match splitChars separator cs with
      | [] => [[c]]
      | part :: parts => (c :: part) :: parts

/-- The parts of a text between separators. -/
def split (separator : Char) (s : String) : List String :=
  (splitChars separator s.toList).map .ofList

theorem splitChars_ne_nil (separator : Char) (cs : List Char) : splitChars separator cs ≠ [] := by
  fun_induction splitChars separator cs <;> simp_all

/-- The parts, put together with the separator between them, are the text. -/
theorem intercalate_splitChars (separator : Char) (cs : List Char) :
    [separator].intercalate (splitChars separator cs) = cs := by
  induction cs with
  | nil => rfl
  | cons c cs ih =>
    unfold splitChars
    obtain ⟨part, parts, hparts⟩ := List.exists_cons_of_ne_nil (splitChars_ne_nil separator cs)
    rw [hparts] at ih ⊢
    split
    · rename_i hc
      subst hc
      simp only [List.intercalate, List.intersperse, List.flatten_cons, List.nil_append] at ih ⊢
      rw [ih]
      rfl
    · cases parts <;> simp_all [List.intercalate, List.intersperse]

end Jotter.Text
