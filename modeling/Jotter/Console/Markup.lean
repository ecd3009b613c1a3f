/-!
Text inside console markup. A tag of the markup is an opening bracket before a lower-case letter or
one of `#`, `/` and `@`, up to the next closing bracket, with no other opening bracket between. A tag
in plain text is escaped by a backslash, and backslashes before it are doubled.
-/

namespace Jotter.Markup

/-- Whether the characters after an opening bracket go on as a tag. -/
def opensTag : List Char → Bool
  | [] => false
  | c :: cs =>
    (('a' ≤ c && c ≤ 'z') || c == '#' || c == '/' || c == '@') &&
      (cs.find? fun d => d == '[' || d == ']') == some ']'

/-- The escaped form of a row of characters, after so many backslashes. -/
def escapeFrom (slashes : Nat) : List Char → List Char
  | [] => List.replicate slashes '\\'
  | c :: cs =>
    if c = '\\' then escapeFrom (slashes + 1) cs
    else if c = '[' && opensTag cs then
      List.replicate (2 * slashes + 1) '\\' ++ c :: escapeFrom 0 cs
    else List.replicate slashes '\\' ++ c :: escapeFrom 0 cs

/-- Doubles a backslash that stands alone at the end, where it would escape what follows. -/
def closeSlash (cs : List Char) : List Char :=
  match cs.reverse with
  | ['\\'] => cs ++ ['\\']
  | '\\' :: c :: _ => if c = '\\' then cs else cs ++ ['\\']
  | _ => cs

/-- A plain text as markup. -/
def escape (s : String) : String :=
  .ofList (closeSlash (escapeFrom 0 s.toList))

end Jotter.Markup
