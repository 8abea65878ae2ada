import Cellwise.Text.Numeral

/-!
# Files by their paths

A command reads the file that it is given the path of. `FileError` says why a path leads to no
file, and a `FileLookup` is any way to answer a path.

A `Folder` holds files in memory. `Folder.lookUp` follows a path from the folder part by part: a
dot stays where it is, two dots leave the folder, and what lies outside of it is not there.
-/

namespace Cellwise

/-- Why a path leads to no file that can be read. -/
inductive FileError where
  | missing
  /-- The path goes on behind a file. -/
  | notFolder
  /-- The path ends at a folder. -/
  | isFolder
  /-- A part of the path, or the whole, has more bytes than a path may have. -/
  | tooLong
  /-- The path has a character that no path has. -/
  | noPath
  | other (reason : String)
  deriving DecidableEq, Repr

namespace FileError

/-- A reason with the number that systems give it. -/
def numbered (reason : String) (code : Nat) : String :=
  reason ++ " (os error " ++ Text.ofInt code ++ ")"

/-- The wording of a reason. -/
def reason : FileError → String
  | missing => numbered "No such file or directory" 2
  | notFolder => numbered "Not a directory" 20
  | isFolder => numbered "Is a directory" 21
  | tooLong => numbered "File name too long" 36
  | noPath => "file name contained an unexpected NUL byte"
  | other reason => reason

end FileError

/-- How a file is read: its content, or why there is none. -/
abbrev FileLookup := String → Except FileError String

/-- Files under their names, in one folder without folders below it. -/
structure Folder where
  files : List (String × String)

namespace Folder

/-- The parts of a path, which slashes divide; two slashes have an empty part between them. -/
def parts : List Char → List (List Char)
  | [] => [[]]
  | c :: path =>
    if c = '/' then [] :: parts path
    else
      match parts path with
      | [] => [[c]]
      | part :: rest => (c :: part) :: rest

/-- Where a path has led so far. -/
inductive Place where
  | inside
  | outside
  | file (content : String)

/-- The most bytes that a part of a path may have. -/
def maxPartBytes : Nat := 255

/-- The most bytes that a path may have. -/
def maxPathBytes : Nat := 4095

/-- Follows one part of a path that has not led to a file yet. -/
def follow (folder : Folder) (place : Place) (part : String) : Except FileError Place :=
  if part = "" || part = "." then .ok place
  else if part = ".." then .ok .outside
  else if maxPartBytes < part.utf8ByteSize then .error .tooLong
  else
    match place, folder.files.lookup part with
    | .inside, some content => .ok (.file content)
    | _, _ => .error .missing

/-- Follows the parts of a path, up to the first that leads nowhere. -/
def followAll (folder : Folder) : Place → List String → Except FileError Place
  | place, [] => .ok place
  -- Nothing lies behind a file, not even an empty part.
  | .file _, _ :: _ => .error .notFolder
  | place, part :: rest => do
    let place ← folder.follow place part
    followAll folder place rest

/-- Looks up the file that a path leads to. -/
def lookUp (folder : Folder) : FileLookup := fun path => do
  let characters := path.toList
  if '\x00' ∈ characters then throw .noPath
  else if path = "" then throw .missing
  else if maxPathBytes < path.utf8ByteSize then throw .tooLong
  else
    let start := if characters.head? = some '/' then Place.outside else Place.inside
    match ← folder.followAll start ((parts characters).map String.ofList) with
    | .file content => pure content
    | _ => throw .isFolder

end Folder

end Cellwise
