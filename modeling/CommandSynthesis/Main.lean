import CommandSynthesis.CommandLine.Run
import CommandSynthesis.Time.Epoch
import Std.Time

set_option autoImplicit false

/-!
# The program

Reads the files that a run looks at, lets the library decide what the run does, and writes what it
changed.
-/

namespace CommandSynthesis.CommandLine

/-- The variables of the environment that a run looks at. -/
def variableNames : List String :=
  ["HOME", "XDG_DATA_HOME", "XDG_CONFIG_HOME", "CMDSMITH_CONFIG", "RUST_LOG", "NO_COLOR"]

/-- The number of the user, in what the system says of a process. -/
def userOf? (status : String) : Option String :=
  (status.splitOn "\n").findSome? fun line =>
    match line.splitOn "\t" with
    | "Uid:" :: user :: _ => some user
    | _ => none

/-- The home directory of a user, in the lines of the password database. -/
def accountHome? (database user : String) : Option String :=
  (database.splitOn "\n").findSome? fun line =>
    match line.splitOn ":" with
    | [_, _, number, _, _, home, _] => if number = user then some home else none
    | _ => none

def readOrEmpty (path : String) : IO String := do
  try IO.FS.readFile path catch _ => return ""

def readEnvironment : IO Environment := do
  let entries ← variableNames.filterMapM fun name => do
    return (← IO.getEnv name).map fun value => (name, value)
  let database ← readOrEmpty "/etc/passwd"
  let user := userOf? (← readOrEmpty "/proc/self/status")
  return { entries, accountHome := user.bind (accountHome? database) }

def currentTime : IO Instant := do
  let moment := (← Std.Time.Timestamp.now).val
  return (Instant.ofEpoch? moment.second.val.toNat moment.nano.val.toNat).getD .epoch

/-- A path that leads to the end of a way. -/
def pathOf (place : FilePath) : String :=
  if place.isRoot then "/" else place.text

/-- What is at the end of a way. -/
def look (place : FilePath) : IO (Option FileEntry) := do
  try
    let bytes ← IO.FS.readBinFile (pathOf place)
    match String.fromUTF8? bytes with
    | some text => return some (.file (.text text))
    | none => return some (.file (.binary bytes.toList))
  catch
    | .noFileOrDirectory _ _ _ => return none
    | .inappropriateType _ _ _ => return some .directory
    | error => throw error

/-- Adds what is on the way along some names to a tree. -/
def takeNames (tree : FileTree) (place : FilePath) : List String → IO FileTree
  | [] => return tree
  | "." :: rest => takeNames tree place rest
  | ".." :: rest => takeNames tree place.parent rest
  | name :: rest => do
    if FileTree.maxNameSize < name.utf8ByteSize then return tree
    let place := place.child name
    match ← look place with
    | some .directory => takeNames (tree.insert place .directory) place rest
    | some entry => return tree.insert place entry
    | none => return tree

/-- Adds what a path leads to, and all that is on the way, to a tree. -/
def takePath (tree : FileTree) (path : String) : IO FileTree :=
  if FileTree.maxPathSize < path.utf8ByteSize then return tree
  else takeNames tree (tree.start path) (Path.names path)

/-- Writes what a run changed: first what it removed, then what it made. -/
def writeChanges (before after : FileTree) : IO Unit := do
  for (place, _) in before.entries do
    if (after.find? place).isNone then IO.FS.removeFile (pathOf place)
  for (place, entry) in after.entries do
    if before.find? place ≠ some entry then
      match entry with
      | .directory => IO.FS.createDir (pathOf place)
      | .file (.text text) =>
        IO.FS.writeFile (pathOf place ++ ".tmp") text
        IO.FS.rename (pathOf place ++ ".tmp") (pathOf place)
      | .file (.binary _) => pure ()

/-- The keys under which the program keeps its texts. -/
def storeKeys : List String :=
  [History.key, StoredDocument.key Preferences, StoredDocument.key SystemConfig]

def readFiles (invocation : Invocation) (environment : Environment) : IO FileTree := do
  let start := Path.names (← IO.currentDir).toString
  let tree ← takeNames ⟨[], .ofNames start⟩ .root start
  let settingsPath := invocation.settings.getD environment.settingsPath
  let tree ← takePath tree settingsPath
  let directory :=
    match invocation.dataDirectory, Settings.load environment tree settingsPath with
    | some directory, _ => directory
    | none, .ok settings => settings.store.dataDirectory
    | none, .error _ => environment.dataDirectory
  let store : FileStore := ⟨directory, tree⟩
  let file :=
    match invocation.command with
    | .config (.importFile file) => [file]
    | _ => []
  (storeKeys.flatMap (fun key => [store.pathFor key, store.temporaryPath key]) ++ file).foldlM
    takePath tree

end CommandSynthesis.CommandLine

open CommandSynthesis CommandLine in
/-- Runs the program and exits with its status. -/
def main (arguments : List String) : IO UInt32 := do
  let environment ← readEnvironment
  let outcome ←
    match Invocation.read arguments with
    | .error stop => pure (.ofStop stop ⟨[], .root⟩)
    | .ok invocation => do
      let tree ← readFiles invocation environment
      let outcome := invocation.run environment (← currentTime) tree
      writeChanges tree outcome.tree
      pure outcome
  IO.print outcome.output
  IO.eprint outcome.messages
  return outcome.status.toUInt32
