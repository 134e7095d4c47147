import CommandSynthesis.Store.Basic
import CommandSynthesis.Store.FilePath

set_option autoImplicit false

/-!
# File trees

The files and directories below the root, each under the way that leads to it. A path is followed
name by name; each name but the last must lead to a directory.

A tree has neither links nor permissions, and no limit to what it can hold: what a path leads to
depends on its names alone, and a call fails for the shape of the tree or for its path, never for a
missing right or a full disk.
-/

namespace CommandSynthesis

/-- What a file holds: a text, or bytes that are no text. -/
inductive FileContent where
  | text (text : String)
  | binary (bytes : List UInt8)
  deriving DecidableEq, Repr

inductive FileEntry where
  | directory
  | file (content : FileContent)
  deriving DecidableEq, Repr

/-- All files and directories but the root, and the directory in which relative paths start. -/
structure FileTree where
  entries : List (FilePath × FileEntry)
  workingDirectory : FilePath
  deriving DecidableEq, Repr, Inhabited

namespace FileTree

/-- What is at the end of a way. -/
def find? (tree : FileTree) (path : FilePath) : Option FileEntry :=
  if path.isRoot then some .directory else tree.entries.lookup path

/-- Puts something at the end of a way, in the place of what may be there. -/
def insert (tree : FileTree) (path : FilePath) (entry : FileEntry) : FileTree :=
  { tree with entries := Entries.put path entry tree.entries }

def erase (tree : FileTree) (path : FilePath) : FileTree :=
  { tree with entries := tree.entries.filter fun entry => entry.1 ≠ path }

/-- The longest name that a file or directory can have, in bytes. -/
def maxNameSize : Nat := 255

/-- The longest path that can be followed, in bytes. -/
def maxPathSize : Nat := 4095

/-- Checks that a directory is at the end of a way. -/
def requireDirectory (tree : FileTree) (path : FilePath) : Except FileError Unit :=
  match tree.find? path with
  | some .directory => .ok ()
  | some (.file _) => .error .notADirectory
  | none => .error .notFound

/-- Follows names from a directory, without looking at what is at the end. -/
def follow (tree : FileTree) (start : FilePath) : List String → Except FileError FilePath
  | [] => .ok start
  | name :: rest => do
    tree.requireDirectory start
    if name = "." then tree.follow start rest
    else if name = ".." then tree.follow start.parent rest
    else if maxNameSize < name.utf8ByteSize then .error .nameTooLong
    else tree.follow (start.child name) rest

/-- The directory from which a path is followed. -/
def start (tree : FileTree) (path : String) : FilePath :=
  if Path.isAbsolute path then .root else tree.workingDirectory

/-- Follows a path, without looking at what is at its end. -/
def walk (tree : FileTree) (path : String) : Except FileError FilePath :=
  if path.toList.contains '\x00' then .error .invalidPath
  else if path.isEmpty then .error .notFound
  else if maxPathSize < path.utf8ByteSize then .error .nameTooLong
  else tree.follow (tree.start path) (Path.names path)

/-- Follows a path. A path that ends with a slash must lead to a directory. -/
def locate (tree : FileTree) (path : String) : Except FileError FilePath := do
  let place ← tree.walk path
  if path.toList.getLast? = some '/' then tree.requireDirectory place
  return place

def exists? (tree : FileTree) (path : String) : Bool :=
  match tree.locate path with
  | .ok place => (tree.find? place).isSome
  | .error _ => false

/-- The text of the file at a path. -/
def readText (tree : FileTree) (path : String) : Except FileError String := do
  let place ← tree.locate path
  match tree.find? place with
  | none => .error .notFound
  | some .directory => .error .isADirectory
  | some (.file (.text text)) => .ok text
  | some (.file (.binary _)) => .error .invalidText

/-- A tree with a text in the file at a path. -/
def writeText (tree : FileTree) (path text : String) : Except FileError FileTree := do
  let place ← tree.locate path
  match tree.find? place with
  | some .directory => .error .isADirectory
  | _ => .ok (tree.insert place (.file (.text text)))

/-- A tree without the file at a path. -/
def removeFile (tree : FileTree) (path : String) : Except FileError FileTree := do
  let place ← tree.locate path
  match tree.find? place with
  | none => .error .notFound
  | some .directory => .error .isADirectory
  | some (.file _) => .ok (tree.erase place)

/-- A tree with the file at one path moved to another. -/
def moveFile (tree : FileTree) (source target : String) : Except FileError FileTree := do
  let sourcePlace ← tree.locate source
  let targetPlace ← tree.locate target
  match tree.find? sourcePlace with
  | none => .error .notFound
  | some .directory => .error .isADirectory
  | some entry =>
    match tree.find? targetPlace with
    | some .directory => .error .isADirectory
    | _ => .ok ((tree.erase sourcePlace).insert targetPlace entry)

/-- Makes the directories that are missing on the steps of a path from a directory on. -/
def makeAlong (tree : FileTree) (place : FilePath) :
    List (List String) → Except FileError Unit × FileTree
  | [] => (.ok (), tree)
  | step :: rest =>
    match tree.follow place step with
    | .error error => (.error error, tree)
    | .ok place =>
      match tree.find? place with
      | some .directory => tree.makeAlong place rest
      | some (.file _) => (.error .alreadyExists, tree)
      | none => (tree.insert place .directory).makeAlong place rest

/-- Makes a directory at a path and, where they are missing, the directories above it. Nothing is
made if the path cannot be followed for another reason than a missing directory. -/
def makeDirectories (tree : FileTree) (path : String) : Except FileError Unit × FileTree :=
  match tree.walk path with
  | .error .notFound => tree.makeAlong (tree.start path) (Path.steps (Path.names path))
  | .ok _ => tree.makeAlong (tree.start path) (Path.steps (Path.names path))
  | .error error => (.error error, tree)

end FileTree

end CommandSynthesis
