import LoggerTree.Text.Blank
import LoggerTree.Text.Split

/-! # Files

    The files of a working directory, by their paths. Of what is outside it, only the folders
    above it are known to be there, up to the root.
-/

namespace LoggerTree

/-! ### Errors -/

/-- Why a file cannot be opened or read. -/
inductive FileError where
  | notFound
  | notFolder
  | isFolder
  | nameTooLong
  | forbidden
  | nulByte
  | notUtf8
  deriving DecidableEq

/-- What is wrong, in words. -/
def FileError.message : FileError → String
  | notFound => "No such file or directory (os error 2)"
  | notFolder => "Not a directory (os error 20)"
  | isFolder => "Is a directory (os error 21)"
  | nameTooLong => "File name too long (os error 36)"
  | forbidden => "Permission denied (os error 13)"
  | nulByte => "file name contained an unexpected NUL byte"
  | notUtf8 => "stream did not contain valid UTF-8"

/-! ### Directories -/

/-- The names on the way to a file. It starts in the working directory, or with two dots for each
    folder above it, or at the root, which is a slash. -/
abbrev FilePath := List (List Char)

namespace FilePath

/-- The folder above. -/
def parent : FilePath := [['.', '.']]

/-- The topmost folder. -/
def root : FilePath := [['/']]

/-- Whether a path leads to the working directory or to a folder above it. -/
def isAbove (path : FilePath) : Bool :=
  path = root || path.all (· = ['.', '.'])

/-- The folder that holds what a path leads to. The root holds itself. -/
def up (path : FilePath) : FilePath :=
  if path = root then root
  else if path.isAbove then path ++ parent
  else path.dropLast

end FilePath

/-- What a path leads to. -/
inductive FileNode where
  | file (bytes : ByteArray)
  | folder

/-- A directory with all that is below it. -/
structure Files where
  entries : List (FilePath × FileNode) := []

namespace Files

/-- What a path leads to, if anything. Whatever has something below it is a folder. -/
def find? (files : Files) (path : FilePath) : Option FileNode :=
  match files.entries.find? (·.1 = path) with
  | some (_, node) => some node
  | none =>
    if path.isAbove || files.entries.any (fun e => path.isPrefixOf e.1) then some .folder
    else none

/-- The most bytes that the name of a file may have. -/
def nameLimit : Nat := 255

/-- The most bytes that a path may have. -/
def pathLimit : Nat := 4095

/-- Follows names from a folder on. All but the last have to lead to folders. -/
def follow (files : Files) : FilePath → List (List Char) → Except FileError FilePath
  | here, [] => .ok here
  | here, part :: parts =>
    match files.find? here with
    | none => .error .notFound
    | some (.file _) => .error .notFolder
    | some .folder =>
      if nameLimit < Text.byteLength part then .error .nameTooLong
      else if part = [] ∨ part = ['.'] then files.follow here parts
      else if part = ['.', '.'] then files.follow here.up parts
      else files.follow (here ++ [part]) parts

/-- The path that a text stands for. -/
def resolve (files : Files) (text : List Char) : Except FileError FilePath :=
  if text.contains '\x00' then .error .nulByte
  else if pathLimit < Text.byteLength text then .error .nameTooLong
  else if text.isEmpty then .error .notFound
  else files.follow (if text.head? = some '/' then .root else []) (Text.split '/' text)

/-- Whether there is a file or a folder. -/
def contains (files : Files) (text : List Char) : Bool :=
  match files.resolve text with
  | .ok path => (files.find? path).isSome
  | .error _ => false

/-- The text of a file. -/
def read (files : Files) (text : List Char) : Except FileError String := do
  match files.find? (← files.resolve text) with
  | none => .error .notFound
  | some .folder => .error .isFolder
  | some (.file bytes) =>
    match String.fromUTF8? bytes with
    | some s => .ok s
    | none => .error .notUtf8

/-- The text of a file, where there is something to read. -/
def look (files : Files) (text : List Char) : Option (Except FileError String) :=
  if files.contains text then some (files.read text) else none

/-- Puts a file at a path, in place of what is there. -/
def put (files : Files) (path : FilePath) (bytes : ByteArray) : Files :=
  ⟨files.entries.filter (·.1 ≠ path) ++ [(path, .file bytes)]⟩

/-- Opens a file for appending. An empty one is made where there is none. What ends with a slash
    can only be a folder. -/
def openAppend (files : Files) (text : List Char) : Except FileError (FilePath × Files) := do
  let name := Text.dropEndWhile (· == '/') text
  let path ← files.resolve (if name.isEmpty then text else name)
  if text.getLast? = some '/' then .error .isFolder
  else
    match files.find? path with
    | none => .ok (path, files.put path .empty)
    | some .folder => .error .isFolder
    | some (.file _) => .ok (path, files)

/-- The files that lie in the working directory itself. -/
def listing (files : Files) : List (List Char × ByteArray) :=
  files.entries.filterMap fun (path, node) =>
    match path, node with
    | [name], .file bytes => some (name, bytes)
    | _, _ => none

/-- Appends to a file. -/
def append (files : Files) (path : FilePath) (s : String) : Files :=
  match files.find? path with
  | some (.file bytes) => files.put path (bytes ++ s.toUTF8)
  | _ => files.put path s.toUTF8

end Files

end LoggerTree
