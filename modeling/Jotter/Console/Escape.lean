/-!
Terminal controls in plain output. A control is an escape character with an opening bracket, then
parameters from `0` to `?`, intermediate characters from the blank to `/`, and one last character from `@`
to `~`; plain output is written without them. The three ranges have no character in common, so each run is
read as far as it goes. Main statement: what is left behind a control is shorter.
-/

namespace Jotter.Escape

/-- Whether a character can stand directly behind the bracket: a digit or a mark beside the digits. -/
def isParameter (c : Char) : Bool :=
  '0' ≤ c && c ≤ '?'

/-- Whether a character can stand between the parameters and the last character. -/
def isIntermediate (c : Char) : Bool :=
  ' ' ≤ c && c ≤ '/'

/-- Whether a character ends a control. -/
def isLast (c : Char) : Bool :=
  '@' ≤ c && c ≤ '~'

/-- What is left behind a control whose escape character has been read, if it is one. -/
def after? : List Char → Option (List Char)
  | '[' :: cs =>
    match (cs.dropWhile isParameter).dropWhile isIntermediate with
    | c :: rest => if isLast c then some rest else none
    | [] => none
  | _ => none

theorem length_lt_of_after? {cs rest : List Char} (h : after? cs = some rest) :
    rest.length < cs.length := by
  unfold after? at h
  split at h
  · rename_i tail
    split at h
    · rename_i c after hdrop
      split at h
      · simp only [Option.some.injEq] at h
        subst h
        have hlength := ((List.dropWhile_suffix isIntermediate).trans
          (List.dropWhile_suffix (l := tail) isParameter)).length_le
        rw [hdrop] at hlength
        simp only [List.length_cons] at hlength ⊢
        omega
      · exact absurd h (by simp)
    · exact absurd h (by simp)
  · exact absurd h (by simp)

/-- The characters without the controls among them. -/
def stripChars : List Char → List Char
  | [] => []
  | c :: cs =>
    if c.toNat = 0x1B then
      match h : after? cs with
      | some rest =>
        have := length_lt_of_after? h
        stripChars rest
      | none => c :: stripChars cs
    else c :: stripChars cs
termination_by cs => cs.length

/-- A text without the controls in it. -/
def strip (s : String) : String :=
  .ofList (stripChars s.toList)

end Jotter.Escape
