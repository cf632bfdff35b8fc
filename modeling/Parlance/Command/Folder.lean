/-
This file holds folders as values, so that what a command does with a path can be told without a
disk. A path is walked name by name from the folder; it may stay where it is, go up, and go
through folders, but not through files. What lies above the folder is not known to hold anything.
Paths, and the names looked up on the way, have a greatest length in bytes.
-/

namespace Parlance.Command

/-- Why a path gives no text. -/
inductive ReadError where
  /-- The path leads nowhere. -/
  | missing
  /-- The path leads to a folder. -/
  | isFolder
  /-- The path goes through a file. -/
  | throughFile
  /-- The path, or a name looked up on the way, is too long. -/
  | tooLong
  /-- The path leads to a file that does not hold UTF-8. -/
  | notText
deriving DecidableEq

/-- What is said of a path that cannot be read. -/
def ReadError.message : ReadError → String
  | missing => "No such file or directory (os error 2)"
  | isFolder => "Is a directory (os error 21)"
  | throughFile => "Not a directory (os error 20)"
  | tooLong => "File name too long (os error 36)"
  | notText => "stream did not contain valid UTF-8"

/-- The most bytes that a name may have. -/
def longestName : Nat := 255

/-- The most bytes that a path may have. -/
def longestPath : Nat := 4095

/-- A file in a folder, with the names that lead to it. -/
structure File where
  names : List String
  bytes : ByteArray

/-- A folder by the files in it. -/
structure Folder where
  files : List File

/-- Where a walk has got to. -/
inductive Standing where
  /-- In the folder that the names lead to. -/
  | inside (names : List String)
  /-- Above the folder where the walk began. -/
  | above

namespace Folder

/-- Whether a folder, or the whole one, lies at the end of some names: a file lies beyond it. -/
def hasFolder (folder : Folder) (names : List String) : Bool :=
  names.isEmpty || folder.files.any fun file =>
    names.isPrefixOf file.names && names.length < file.names.length

/-- Walks along the parts of a path to the bytes of a file. A name is measured when it is looked
up, so a walk that ends before a name never finds it too long. -/
def walk (folder : Folder) : Standing → List String → Except ReadError ByteArray
  | _, [] => .error .isFolder
  | standing, part :: rest =>
    if part = "" || part = "." then folder.walk standing rest
    else if part = ".." then
      match standing with
      | .inside names =>
        folder.walk (if names.isEmpty then .above else .inside names.dropLast) rest
      | .above => folder.walk .above rest
    else if longestName < part.utf8ByteSize then .error .tooLong
    else
      match standing with
      | .above => .error .missing
      | .inside names =>
        match folder.files.find? (·.names = names ++ [part]) with
        | some file => if rest.isEmpty then .ok file.bytes else .error .throughFile
        | none =>
          if folder.hasFolder (names ++ [part]) then folder.walk (.inside (names ++ [part])) rest
          else .error .missing

/-- Reads the text at a path. -/
def read (folder : Folder) (path : String) : Except ReadError String :=
  if path = "" then .error .missing
  else if longestPath < path.utf8ByteSize then .error .tooLong
  else
    let standing := if path.front = '/' then .above else .inside []
    match folder.walk standing (path.splitOn "/") with
    | .error error => .error error
    | .ok bytes =>
      match String.fromUTF8? bytes with
      | some text => .ok text
      | none => .error .notText

/-- The folder that holds files at paths. -/
def ofPaths (files : List (String × ByteArray)) : Folder :=
  ⟨files.map fun (path, bytes) =>
    ⟨(path.splitOn "/").filter (fun part => part ≠ "" && part ≠ "."), bytes⟩⟩

end Folder

end Parlance.Command
