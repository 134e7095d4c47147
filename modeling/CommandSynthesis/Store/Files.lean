import CommandSynthesis.Store.FileTree

set_option autoImplicit false

/-!
# Stores in files

A store with one file for each key, all in one directory of a tree without links and permissions. A
text is written to a temporary file first, which then takes the place of the file, so a reader never
meets half a text.
-/

namespace CommandSynthesis

/-- A directory and the files it is among. -/
structure FileStore where
  directory : String
  tree : FileTree
  deriving DecidableEq, Repr, Inhabited

namespace FileStore

def isNameChar (c : Char) : Bool :=
  c.isAlphanum || c = '.' || c = '-' || c = '_'

/-- A key in the form in which file names hold it: other characters become underscores. -/
def sanitize (key : String) : String :=
  String.ofList (key.toList.map fun c => if isNameChar c then c else '_')

/-- The name of the file of a key. -/
def fileName (key : String) : String :=
  sanitize key ++ ".json"

/-- The name of the temporary file of a key: that of its file with `json.tmp` in place of the
extension `json`, by the documented rule for replacing an extension. A name that is all extension
counts as having none. The rule gives `..json.tmp` for the key `.`; an implementation that first
cuts `..json` to `..` finds no name there to extend, and fails to write that key. -/
def temporaryName (key : String) : String :=
  (if key.isEmpty then ".json" else sanitize key) ++ ".json.tmp"

/-- The path of the file of a key. -/
def pathFor (store : FileStore) (key : String) : String :=
  Path.join store.directory (fileName key)

/-- The path of the temporary file of a key. -/
def temporaryPath (store : FileStore) (key : String) : String :=
  Path.join store.directory (temporaryName key)

/-- Why the text of a key cannot be read, apart from there being none. -/
def readError? (store : FileStore) (key : String) : Option FileError :=
  match store.tree.readText (store.pathFor key) with
  | .ok _ => none
  | .error .notFound => none
  | .error error => some error

def get? (store : FileStore) (key : String) : Option String :=
  (store.tree.readText (store.pathFor key)).toOption

/-- What is said when a file cannot take the place of another. -/
def replaceFailure (path : String) (error : FileError) : Failure :=
  .store ("failed to replace " ++ path ++ ": " ++ error.message)

/-- Changes the tree, or fails and leaves it as it is. -/
def change (f : FileStore → Except FileError FileTree) : Action FileStore Unit := do
  let store ← getThe FileStore
  match f store with
  | .ok tree => set { store with tree }
  | .error error => throw (.file error)

def makeDirectory : Action FileStore Unit := do
  let store ← getThe FileStore
  let (outcome, tree) := store.tree.makeDirectories store.directory
  set { store with tree }
  match outcome with
  | .ok () => return ()
  | .error error => throw (.file error)

/-- Puts the temporary file of a key in the place of its file. If that fails, the temporary file is
removed. -/
def replaceFile (key : String) : Action FileStore Unit := do
  let store ← getThe FileStore
  let target := store.pathFor key
  let temporary := store.temporaryPath key
  match store.tree.moveFile temporary target with
  | .ok tree => set { store with tree }
  | .error error =>
    match store.tree.removeFile temporary with
    | .ok tree => set { store with tree }
    | .error _ => pure ()
    throw (replaceFailure target error)

def write (key text : String) : Action FileStore Unit := do
  makeDirectory
  change fun store => store.tree.writeText (store.temporaryPath key) text
  replaceFile key

/-- Removes the file of a key, if there is one. -/
def delete (key : String) : Action FileStore Unit := do
  let store ← getThe FileStore
  match store.tree.removeFile (store.pathFor key) with
  | .ok tree => set { store with tree }
  | .error .notFound => return ()
  | .error error => throw (.file error)

instance : Store FileStore where
  get? := get?
  set := write
  remove := delete

end FileStore

end CommandSynthesis
