/-
# Files and folders

What a program finds on a disk: files with their bytes, folders, the folder it runs in and the
home folder of its user. Places are given by the names on the way from the root of all. Every file
lies in folders, and nothing lies in a file. A path leads to a place name by name, and a double dot
leads from a folder to the one around it.
-/

import SfcLint.Files.Path
import SfcLint.Text.Utf8

namespace SfcLint

/-- The files and folders that a program finds. -/
structure Disk where
  files : List (List Text × List UInt8)
  folders : List (List Text)
  current : List Text
  home : List Text

/-- Why a file cannot be read or written. -/
inductive FileFault
  | missing
  | isFolder
  | notFolder
  deriving DecidableEq, Repr

/-- A fault and the path that has it. -/
structure FileError where
  fault : FileFault
  path : String
  deriving DecidableEq, Repr

/-- How a failure to reach a file is reported. -/
def FileError.message (error : FileError) : String :=
  (match error.fault with
    | .missing => "[Errno 2] No such file or directory: "
    | .isFolder => "[Errno 21] Is a directory: "
    | .notFolder => "[Errno 20] Not a directory: ") ++
  String.ofList (Text.quoted error.path.toList)

namespace Disk

/-- There is a file at a place. -/
def hasFile (disk : Disk) (place : List Text) : Bool := (disk.files.lookup place).isSome

/-- All places that something is said about. -/
def places (disk : Disk) : List (List Text) :=
  disk.current :: disk.home :: disk.folders ++ disk.files.map (·.1)

/-- There is a folder at a place: it is no file, and something lies there or below. -/
def hasFolder (disk : Disk) (place : List Text) : Bool :=
  !disk.hasFile place &&
    (place.isEmpty || disk.places.any fun other => (Path.partsBelow? place other).isSome)

/-- There is a file or a folder at a place. -/
def has (disk : Disk) (place : List Text) : Bool := disk.hasFile place || disk.hasFolder place

/-- The place that one more part leads to. -/
def step (disk : Disk) (place : List Text) (part : Text) : Except FileFault (List Text) :=
  if !disk.hasFolder place then .error .notFolder
  else
    let next := if part = ['.', '.'] then place.dropLast else place ++ [part]
    if disk.has next then .ok next else .error .missing

/-- The place that a path leads to. -/
def find (disk : Disk) (path : Path) : Except FileFault (List Text) :=
  path.parts.foldlM disk.step (if path.isAbsolute then [] else disk.current)

/-- The path leads to a file. -/
def isFile (disk : Disk) (path : Path) : Bool :=
  match disk.find path with
  | .ok place => disk.hasFile place
  | .error _ => false

/-- The path leads to a folder. -/
def isFolder (disk : Disk) (path : Path) : Bool :=
  match disk.find path with
  | .ok place => disk.hasFolder place
  | .error _ => false

/-- The path leads to a file or a folder. -/
def reaches (disk : Disk) (path : Path) : Bool := (disk.find path).isOk

/-- The bytes of the file that a path leads to. -/
def bytes (disk : Disk) (path : Path) : Except FileError (List UInt8) :=
  match disk.find path with
  | .error fault => .error ⟨fault, path.toString⟩
  | .ok place =>
      match disk.files.lookup place with
      | some bytes => .ok bytes
      | none => .error ⟨.isFolder, path.toString⟩

/-- The rows of names that lead from a folder to what lies in it at any depth. -/
def below (disk : Disk) (place : List Text) : List (List Text) :=
  let rows := disk.places.filterMap fun other => Path.partsBelow? place other
  (rows.flatMap fun row => (List.range row.length).map fun n => row.take (n + 1)).eraseDups

/-- The names of what lies in a folder. -/
def names (disk : Disk) (place : List Text) : List Text :=
  (disk.below place).filterMap fun row =>
    match row with
    | [name] => some name
    | _ => none

/-- The disk with the bytes of a file replaced, or with one more file. -/
def put (disk : Disk) (place : List Text) (bytes : List UInt8) : Disk :=
  { disk with files := (place, bytes) :: disk.files.filter fun (other, _) => other != place }

/-- The disk after writing a file. The folder that it lies in must be there. -/
def write (disk : Disk) (path : Path) (bytes : List UInt8) : Except FileError Disk :=
  match disk.find path with
  | .ok place =>
      if disk.hasFile place then .ok (disk.put place bytes)
      else .error ⟨.isFolder, path.toString⟩
  | .error .missing =>
      match disk.find path.parent with
      | .ok place => .ok (disk.put (place ++ [path.name]) bytes)
      | .error fault => .error ⟨fault, path.toString⟩
  | .error fault => .error ⟨fault, path.toString⟩

end Disk

end SfcLint
