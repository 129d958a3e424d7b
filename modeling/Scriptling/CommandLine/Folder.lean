/-
This file models the folder in which a command is run, as far as a command can
see it: the files in it, by their paths. A path is followed one part at a time,
from the folder or from the root. Nothing is known of what lies outside the
folder but that it is made of folders, so no name is found there, and who has
left does not come back.
-/

import Scriptling.Bytes

namespace Scriptling

/-- Why a file cannot be read. -/
inductive FileError where
  | missing
  | isDirectory
  | notDirectory
  | other (reason : String)
  deriving DecidableEq, Repr

def FileError.message : FileError → String
  | .missing => "No such file or directory (os error 2)"
  | .isDirectory => "Is a directory (os error 21)"
  | .notDirectory => "Not a directory (os error 20)"
  | .other reason => reason

structure Folder where
  files : List (String × Bytes)

/-- Where the parts of a path lead: to a folder below this one, by the names on the way to it,
to a file, or out. -/
inductive Place where
  | folder (names : List String)
  | file (content : Bytes)
  | outside

namespace Folder

/-- The place that some names lead to. There is a folder wherever a file lies deeper. -/
def enter (folder : Folder) (names : List String) : Except FileError Place :=
  match folder.files.find? fun file => file.1.splitOn "/" == names with
  | some (_, content) => .ok (.file content)
  | none =>
    if folder.files.any fun file => names.isPrefixOf (file.1.splitOn "/") then
      .ok (.folder names)
    else .error .missing

/-- Follows one part of a path. An empty part and a single dot stay in place, and two dots lead
one folder up. -/
def follow (folder : Folder) (place : Place) (part : String) : Except FileError Place :=
  match place with
  | .file _ => .error .notDirectory
  | .outside =>
    if part = "" ∨ part = "." ∨ part = ".." then .ok .outside else .error .missing
  | .folder names =>
    if part = "" ∨ part = "." then .ok (.folder names)
    else if part = ".." then
      .ok (if names.isEmpty then .outside else .folder names.dropLast)
    else folder.enter (names ++ [part])

/-- Where a path begins. -/
def origin (path : String) : Place :=
  if path.toList.head? = some '/' then .outside else .folder []

/-- Reads the file that a path leads to. -/
def read (folder : Folder) (path : String) : Except FileError Bytes := do
  if path.isEmpty then throw .missing
  match ← (path.splitOn "/").foldlM folder.follow (origin path) with
  | .file content => return content
  | .folder _ | .outside => throw .isDirectory

end Folder

end Scriptling
