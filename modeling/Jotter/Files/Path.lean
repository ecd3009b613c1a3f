import Jotter.Failure
import Jotter.Text.Search
import Jotter.Text.Split

/-!
Paths of files. Of the slashes in the text of a path only the ones between names count: repeated and
trailing ones and the parts `.` vanish. A path from the root begins with one slash, or with two if it is
written with exactly two. The part `..` stays until the path is followed.
-/

namespace Jotter

/-- Where a path begins. -/
inductive Root where
  | here
  | slash
  | doubleSlash
  deriving DecidableEq, Repr, Inhabited

namespace Root

def text : Root → String
  | here => ""
  | slash => "/"
  | doubleSlash => "//"

/-- The beginning that so many slashes mean. -/
def ofSlashes : Nat → Root
  | 0 => here
  | 2 => doubleSlash
  | _ => slash

end Root

/-- The home directories by the names of their accounts; that of the user has an empty name. -/
abbrev Homes := List (String × String)

structure FilePath where
  root : Root
  parts : List String
  deriving DecidableEq, Repr, Inhabited

namespace FilePath

/-- The parts of a text between slashes that count. -/
def partsOf (text : String) : List String :=
  (Text.split '/' text).filter fun part => part != "" && part != "."

/-- The path that a text means. -/
def ofText (text : String) : FilePath :=
  ⟨.ofSlashes (text.toList.takeWhile (· == '/')).length, partsOf text⟩

/-- The text of a path; the place where it is read is a point. -/
def text (path : FilePath) : String :=
  let text := path.root.text ++ "/".intercalate path.parts
  if text.isEmpty then "." else text

/-- Where a path begins; the two ways to write the root mean the same. -/
def origin (path : FilePath) : FilePath :=
  match path.root with
  | .here => ⟨.here, []⟩
  | .slash | .doubleSlash => ⟨.slash, []⟩

/-- The path one part further; going up from the top of a path that begins here leads out of it. -/
def step (path : FilePath) (part : String) : FilePath :=
  if part = ".." then
    match path.parts.getLast?, path.root with
    | none, .here | some "..", .here => ⟨path.root, path.parts ++ [".."]⟩
    | _, _ => ⟨path.root, path.parts.dropLast⟩
  else ⟨path.root, path.parts ++ [part]⟩

/-- The path without going up and down again. -/
def resolved (path : FilePath) : FilePath :=
  path.parts.foldl step path.origin

/-- Whether a path holds the character that ends texts, which no name can hold. -/
def holdsNull (path : FilePath) : Bool :=
  path.parts.any fun part => part.toList.contains '\x00'

/-- The text of a home directory without slashes at its end, unless it is all slashes. -/
def homeText (home : String) : String :=
  let text : String := .ofList (home.toList.reverse.dropWhile (· == '/')).reverse
  if text.isEmpty then "/" else text

/-- The path of the home directory of an account. -/
def homeOf (homes : Homes) (account : String) : Except Failure FilePath :=
  if account.toList.contains '\x00' then .error .nullInName
  else
    match homes.lookup account with
    | some home =>
      if Text.startsWith (homeText home) "~" then .error .unknownHome else .ok (ofText (homeText home))
    | none => .error .unknownHome

/-- The path with a home directory for a tilde and perhaps an account at its beginning. -/
def expandHome (homes : Homes) (path : FilePath) : Except Failure FilePath :=
  match path.root, path.parts with
  | .here, part :: parts =>
    if Text.startsWith part "~" then
      (homeOf homes (Text.dropLead part "~")).map fun base => ⟨base.root, base.parts ++ parts⟩
    else .ok path
  | _, _ => .ok path

end FilePath

end Jotter
