import Multimodal.Failure

/-!
# Storage

What the library asks of a storage: whether a path is a directory, and the octets of a file. A file
tree is such a storage, held in memory; its paths are read from its top, which is where every
relative path starts.
-/
namespace Multimodal

/-- A place from which files are read. -/
structure Storage where
  isDirectory : String → Bool
  read : String → Except FileFault (List UInt8)

namespace Storage

def readText (s : Storage) (path : String) : Except FileFault String := do
  let octets ← s.read path
  match String.fromUTF8? ⟨octets.toArray⟩ with
  | some text => return text
  | none => throw .notText

end Storage

/-- The path of a file in a directory. -/
def joinPath (directory file : String) : String :=
  if directory.isEmpty || directory.endsWith "/" then directory ++ file
  else directory ++ "/" ++ file

/-- The names along a path: the pieces between its slashes. -/
def pathNames (path : String) : List String := path.splitOn "/"

/-- Files and directories under one top, each at the list of names that leads to it. A directory is
there as soon as something is in it. -/
structure FileTree where
  files : List (List String × List UInt8) := []
  directories : List (List String) := []
  deriving Repr

namespace FileTree

/-- Where a path leads. -/
inductive Entry where
  | directory (names : List String)
  | file (octets : List UInt8)
  deriving DecidableEq, Repr

/-- Whether names lead to a directory. -/
def hasDirectory (t : FileTree) (names : List String) : Bool :=
  names.isEmpty || t.directories.any names.isPrefixOf ||
    t.files.any fun (file, _) => names.isPrefixOf file && names != file

/-- The greatest length of a name, in octets. -/
def maxNameLength : Nat := 255

/-- The greatest length of a path, in octets. -/
def maxPathLength : Nat := 4095

/-- Follows names from a directory. An empty name and a dot stay where they are, two dots go up, and
nothing leads on from a file. Above the top nothing is found. -/
def follow (t : FileTree) : List String → List String → Except FileFault Entry
  | here, [] => .ok (.directory here)
  | here, name :: rest =>
    if name = "" ∨ name = "." then t.follow here rest
    else if name = ".." then
      if here.isEmpty then FileTree.follow {} [] rest else t.follow here.dropLast rest
    else if maxNameLength < name.utf8ByteSize then .error .nameTooLong
    else
      let next := here ++ [name]
      if t.hasDirectory next then t.follow next rest
      else
        match t.files.lookup next with
        | none => .error .notFound
        | some octets => if rest.isEmpty then .ok (.file octets) else .error .notADirectory

/-- Where a path leads. The empty path leads nowhere, and a path from the root of everything finds
nothing there. -/
def entry (t : FileTree) (path : String) : Except FileFault Entry :=
  if path.contains '\x00' then .error .zeroInPath
  else if path.isEmpty then .error .notFound
  else if maxPathLength < path.utf8ByteSize then .error .nameTooLong
  else if path.startsWith "/" then FileTree.follow {} [] (pathNames path)
  else t.follow [] (pathNames path)

def isDirectory (t : FileTree) (path : String) : Bool :=
  match t.entry path with
  | .ok (.directory _) => true
  | _ => false

def read (t : FileTree) (path : String) : Except FileFault (List UInt8) := do
  match ← t.entry path with
  | .directory _ => throw .isADirectory
  | .file octets => return octets

def storage (t : FileTree) : Storage := ⟨t.isDirectory, t.read⟩

end FileTree

end Multimodal
