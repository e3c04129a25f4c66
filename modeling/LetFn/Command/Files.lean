/-!
# Reading files

`ReadFailure` lists the reasons why a file cannot be read as text, with the words of the operating
system for them. A `Folder` is a set of files by name, and `Folder.read` follows a path that
starts there, step by step: a file has nothing below it, and of what lies outside the folder only
that there are folders is known.
-/

namespace LetFn.Command

/-- Why a file cannot be read as text. -/
inductive ReadFailure where
  | missing
  | isFolder
  | notFolder
  | notText
  | other (reason : String)
  deriving DecidableEq, Repr

/-- The text shown for a failure. -/
def ReadFailure.message : ReadFailure → String
  | missing => "No such file or directory (os error 2)"
  | isFolder => "Is a directory (os error 21)"
  | notFolder => "Not a directory (os error 20)"
  | notText => "stream did not contain valid UTF-8"
  | other reason => reason

/-- The content of a file as text. -/
def decode (content : ByteArray) : Except ReadFailure String :=
  match String.fromUTF8? content with
  | some text => .ok text
  | none => .error .notText

/-- Files by name. -/
abbrev Folder := List (String × ByteArray)

/-- What a path leads to. -/
inductive Place where
  | folder
  | file (content : ByteArray)
  /-- A folder other than the one that the paths start in. -/
  | elsewhere

namespace Folder

/-- The place one component further. -/
def step (files : Folder) (place : Place) (component : String) : Except ReadFailure Place :=
  match place with
  | .file _ => .error .notFolder
  | .folder =>
    if component = "" ∨ component = "." then .ok .folder
    else if component = ".." then .ok .elsewhere
    else match files.lookup component with
      | some content => .ok (.file content)
      | none => .error .missing
  | .elsewhere =>
    if component = "" ∨ component = "." ∨ component = ".." then .ok .elsewhere
    else .error .missing

/-- The place a path leads to. -/
def resolve (files : Folder) (path : String) : Except ReadFailure Place :=
  match path.splitOn "/" with
  | "" :: components => components.foldlM files.step .elsewhere
  | components => components.foldlM files.step .folder

/-- The content of the file at a path. -/
def read (files : Folder) (path : String) : Except ReadFailure ByteArray := do
  match ← files.resolve path with
  | .file content => .ok content
  | _ => .error .isFolder

end Folder

end LetFn.Command
