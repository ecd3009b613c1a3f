import Jotter.Files.Path

/-!
The files below a folder, and where a path leads in it. A folder that was made for a file stays when
the file is removed. Outside, only what was put there is known, except that the ways up and the root
are folders.
-/

namespace Jotter

/-- What a path leads to. -/
inductive Place (δ : Type) where
  | file (document : δ)
  | folder
  | nowhere
  /-- A name on the way is longer than names can be, or the whole path is. -/
  | tooLong

/-- Files and folders by their resolved paths. -/
structure Folder (δ : Type) where
  files : List (FilePath × δ) := []
  folders : List FilePath := []

namespace Folder

variable {δ : Type}

/-- The most bytes of a name. -/
def longestName : Nat := 255

/-- The most bytes of a path. -/
def longestPath : Nat := 4095

/-- The positions on the way along parts, from a position on and without the last one. -/
def passed (position : FilePath) : List String → List FilePath
  | [] => []
  | part :: parts => position :: passed (position.step part) parts

/-- The folder with a folder added to it. -/
def addFolder (folder : Folder δ) (name : String) : Folder δ :=
  { folder with folders := (FilePath.ofText name).resolved :: folder.folders }

/-- The folder with a file put in it; the folders on the way are made. -/
def put (folder : Folder δ) (path : FilePath) (document : δ) : Folder δ :=
  { files := (path.resolved, document) :: folder.files.filter (·.1 != path.resolved)
    folders := passed path.origin path.parts ++ folder.folders }

/-- Writes a file under a name. -/
def write (folder : Folder δ) (name : String) (document : δ) : Except Failure (Folder δ) :=
  let path := FilePath.ofText name
  if path.holdsNull then .error .nullInName else .ok (folder.put path document)

def remove (folder : Folder δ) (name : String) : Folder δ :=
  let path := (FilePath.ofText name).resolved
  { folder with files := folder.files.filter (·.1 != path) }

/-- What is at a position. -/
def placeAt (folder : Folder δ) (position : FilePath) : Place δ :=
  if position.parts.all (· == "..") then .folder
  else
    match folder.files.lookup position with
    | some document => .file document
    | none => if folder.folders.contains position then .folder else .nowhere

/-- Follows the parts of a path from a position; every part but the last has to lead to a folder. An
empty part and a point stay where they are. -/
def follow (folder : Folder δ) (position : FilePath) : List String → Place δ
  | [] => folder.placeAt position
  | part :: parts =>
    match folder.placeAt position with
    | .folder =>
      if longestName < part.utf8ByteSize then .tooLong
      else if part = "" || part = "." then folder.follow position parts
      else folder.follow (position.step part) parts
    | _ => .nowhere

/-- Where a path leads. -/
def find (folder : Folder δ) (path : FilePath) : Place δ :=
  if longestPath < path.text.utf8ByteSize then .tooLong
  else folder.follow path.origin path.parts

/-- Where the text of a path leads when all its slashes count, so that one at the end asks for a
folder. An empty text leads nowhere. -/
def findText (folder : Folder δ) (text : String) : Place δ :=
  if text.isEmpty then .nowhere
  else if longestPath < text.utf8ByteSize then .tooLong
  else folder.follow (FilePath.ofText text).origin (Text.split '/' text)

end Folder

end Jotter
