import CommandSynthesis.Catalog.Builtin
import CommandSynthesis.CommandLine.Command
import CommandSynthesis.CommandLine.Page
import CommandSynthesis.CommandLine.Session
import CommandSynthesis.Log.Notes
import CommandSynthesis.Settings.File

set_option autoImplicit false

/-!
# Running commands

What the program does with its arguments: from the environment, the time and the files to an exit
status, output, messages and the files afterwards. Commands that are made are never run.
-/

namespace CommandSynthesis.CommandLine

open StoredDocument (load loadNotes)

structure Outcome where
  status : Nat
  output : String
  messages : String
  tree : FileTree

/-- The status of a run that did what was asked. -/
def success : Nat := 0

/-- The status of a run that failed, or found something wrong. -/
def failure : Nat := 1

/-- The status of a run whose arguments are wrong. -/
def misuse : Nat := 2

namespace Step

def template (id : String) : Step Template :=
  match Catalog.builtin.find? id with
  | some template => return template
  | none => throw (.ofFailure (.unknownTemplate id))

def preferences (context : Context) : Step Preferences := do
  note context (loadNotes Preferences)
  return load (← get).store

end Step

open Step

def list (context : Context) (category search : Option String) : Step Nat := do
  let favorites := (← preferences context).favorites
  let found : List Template :=
    match search with
    | some query => Catalog.builtin.search query
    | none => Catalog.builtin.templates
  let found : List Template :=
    match category with
    | some category => found.filter (·.category == category)
    | none => found
  lines (found.map fun template => template.row (favorites.contains template.id))
  if found.isEmpty then
    line "No matching templates."
    if category.isSome then
      line ("Categories: " ++ ", ".intercalate Catalog.builtin.categories)
  return success

def describe (id : String) : Step Nat := do
  lines (← template id).page
  return success

/-- The values for the inputs of a template: those that are given, then the preferred ones. -/
def chosenBindings (preferences : Preferences) (template : Template)
    (assignments : List (String × String)) : Bindings :=
  preferences.applyDefaults template (Bindings.ofList assignments)

/-- The warning that comes with a template that can do harm. -/
def dangerLine (template : Template) : String :=
  template.dangerLevel.tag ++ " " ++ template.name ++ " - review before running"

/-- Saves a command. That it cannot be saved is told, and no more. -/
def remember (context : Context) (result : Synthesis) : Step Unit := do
  note context (History.appendNotes context.capacity result)
  match ← perform (History.append context.capacity result) with
  | .ok () => return ()
  | .error failure =>
    message (Text.Style.yellow.paint "[WARNING]" ++ " could not save to history: "
      ++ failure.message)

/-- Makes a command, saves it where that is wanted, and shows it. -/
def generate (context : Context) (id : String) (assignments : List (String × String))
    (strict save json : Bool) : Step Nat := do
  let template ← template id
  let preferences ← preferences context
  for (name, _) in assignments do
    if (template.findInput? name).isNone then
      log context (Log.warning .commands
        ("Template '" ++ id ++ "' has no input named '" ++ name ++ "'"))
  let bindings := chosenBindings preferences template assignments
  let result :=
    template.synthesize bindings (strict || context.settings.engine.strict) context.now
  log context (template.synthesisNote result)
  if preferences.showDangerWarnings && !json && template.dangerLevel ≠ .safe then
    message (dangerLine template)
  if save || (preferences.autoSaveHistory && result.valid) then remember context result
  if json then line result.encode.pretty
  else
    line result.command
    messages (result.errors.map Synthesis.errorLine)
  return if result.valid then success else failure

def history (context : Context) (clear json : Bool) : Step Nat := do
  if clear then
    require History.clear (.during "failed to clear history")
    line "History cleared."
  else
    note context History.listNotes
    let entries := History.list (← get).store
    if json then line (History.encode entries).pretty else lines (History.page entries)
  return success

def exportConfig (context : Context) : Step Unit := do
  note context Preferences.exportNotes
  line (Preferences.exportText (← get).store)

/-- Shows what is in force. -/
def overview (context : Context) : Step Nat := do
  let present := (← get).store.tree.exists? context.settingsPath
  lines [
    "cmdsmith configuration",
    "======================",
    "",
    "Settings file:    " ++ context.settingsPath ++ if present then "" else " (using defaults)",
    "History capacity: " ++ Decimal.ofNat context.capacity.toNat,
    "Strict mode:      " ++ if context.settings.engine.strict then "true" else "false",
    ""]
  exportConfig context
  return success

/-- Takes preferences and system config from a file. -/
def importConfig (context : Context) (file : String) : Step Nat := do
  match (← get).store.tree.readText file with
  | .error error => throw ⟨"failed to read " ++ file, [error.message]⟩
  | .ok text =>
    note context (Preferences.importNotes text)
    if ← require (Preferences.importText text) .ofFailure then
      line ("Imported configuration from " ++ file)
      return success
    else
      throw { message := file ++ " is not a valid configuration export; nothing was changed" }

/-- Adds a template to the favorites or takes it away. -/
def favorite (context : Context) (id : String) : Step Nat := do
  let _ ← template id
  note context (Preferences.toggleNotes id)
  if ← require (Preferences.toggle id) .ofFailure then
    line ("Added " ++ id ++ " to favorites.")
  else
    line ("Removed " ++ id ++ " from favorites.")
  return success

/-- Does what a command on preferences and system config asks for. -/
def config (context : Context) : ConfigCommand → Step Nat
  | .overview => overview context
  | .exportText => do
    exportConfig context
    return success
  | .importFile file => importConfig context file
  | .reset => do
    require Preferences.reset (.during "failed to reset configuration")
    line "Preferences and system config reset to defaults."
    return success
  | .favorite id => favorite context id

def lint (id : Option String) : Step Nat := do
  let (checked, issues) ←
    match id with
    | some id => do pure (1, (← template id).lint)
    | none => pure (Catalog.builtin.size, lintAll Catalog.builtin.templates)
  messages (issues.map LintIssue.line)
  let errors := (issues.filter LintIssue.isError).length
  line (Decimal.ofNat checked ++ " template(s) checked, " ++ Decimal.ofNat errors
    ++ " error(s), " ++ Decimal.ofNat (issues.length - errors) ++ " warning(s)")
  return if errors = 0 then success else failure

/-- Does what a command asks for; the result is the exit status. -/
def execute (context : Context) : Command → Step Nat
  | .list category search => list context category search
  | .describe id => describe id
  | .generate id assignments strict save json =>
    generate context id assignments strict save json
  | .history clear json => history context clear json
  | .config command => config context command
  | .lint id => lint id

/-- The filter of the log, and what is said of the directives that are none: the environment goes
before the settings. -/
def logFilter (environment : Environment) (settings : Settings) : Log.Filter × List String :=
  match (environment.lookup "RUST_LOG").bind Log.Filter.ofText? with
  | some filter => (filter, [])
  | none => Log.Filter.ofTextLossy settings.log.level

/-- Whether the environment allows for colours in the log. -/
def isColored (environment : Environment) : Bool :=
  (environment.lookup "NO_COLOR").all String.isEmpty

/-- The capacity of the history: the one in the settings, or else the preferred one. -/
def capacity (settings : Settings) (store : FileStore) : UInt64 :=
  match settings.engine.historyCapacity with
  | some capacity => .ofNat capacity
  | none => (load store : Preferences).historyLimit

/-- Logs what is found when a command starts. -/
def greet (context : Context) : Step Unit := do
  let directory := (← get).store.directory
  log context ⟨.info, .commands, "Using data directory " ++ directory⟩
  if context.settings.engine.historyCapacity.isNone then note context (loadNotes Preferences)
  log context ⟨.info, .commands,
    "Loaded " ++ Decimal.ofNat Catalog.builtin.size ++ " templates"⟩

/-- How a run ends that does something in a session. -/
def Outcome.ofSession (step : Step Nat) (session : Session) : Outcome :=
  let (result, session) := StateT.run (ExceptT.run step) session
  match result with
  | .ok status => ⟨status, session.output, session.messages, session.store.tree⟩
  | .error complaint =>
    ⟨failure, session.output, session.messages ++ complaint.print, session.store.tree⟩

/-- How a run ends whose arguments lead to no command. -/
def Outcome.ofStop (stop : Stop) (tree : FileTree) : Outcome :=
  match stop with
  | .usage error =>
    ⟨misuse, "", "error: " ++ error.message ++ "\n\nFor more information, try '--help'.\n", tree⟩
  | .help page => ⟨success, page, "", tree⟩
  | .helpless page => ⟨misuse, "", page, tree⟩
  | .version => ⟨success, programName ++ " " ++ programVersion ++ "\n", "", tree⟩

def Invocation.run (invocation : Invocation) (environment : Environment) (now : Instant)
    (tree : FileTree) : Outcome :=
  let settingsPath := invocation.settings.getD environment.settingsPath
  match Settings.load environment tree settingsPath with
  | .error error => ⟨failure, "", (Complaint.ofFailure error).print, tree⟩
  | .ok settings =>
    let directory := invocation.dataDirectory.getD settings.store.dataDirectory
    let store : FileStore := ⟨directory, tree⟩
    let (filter, ignored) := logFilter environment settings
    let context : Context :=
      { settings, settingsPath, capacity := capacity settings store, filter,
        colored := isColored environment, now }
    .ofSession
      (do
        messages ignored
        greet context
        execute context invocation.command)
      { store }

def run (environment : Environment) (now : Instant) (tree : FileTree)
    (arguments : List String) : Outcome :=
  match Invocation.read arguments with
  | .ok invocation => invocation.run environment now tree
  | .error stop => .ofStop stop tree

end CommandSynthesis.CommandLine
