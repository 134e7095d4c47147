import CommandSynthesis.CommandLine.Reader

set_option autoImplicit false

/-!
# Commands

What the program can be asked to do, and the arguments that ask for it.
-/

namespace CommandSynthesis.CommandLine

/-- What can be done with the preferences and the system config. -/
inductive ConfigCommand where
  | overview
  | exportText
  | importFile (file : String)
  | reset
  | favorite (id : String)
  deriving DecidableEq, Repr

inductive Command where
  | list (category search : Option String)
  | describe (id : String)
  | generate (id : String) (assignments : List (String × String)) (strict save json : Bool)
  | history (clear json : Bool)
  | config (command : ConfigCommand)
  | lint (id : Option String)
  deriving DecidableEq, Repr

/-- A command, and the paths that are given with it in place of the usual ones. -/
structure Invocation where
  settings : Option String
  dataDirectory : Option String
  command : Command
  deriving DecidableEq, Repr

/-- The name under which the program is called. -/
def programName : String := "cmdsmithctl"

def programVersion : String := "0.4.0"

def globalOptions : List OptionSpec :=
  [{ name := "config", value := some ("PATH", .path) },
    { name := "data-dir", value := some ("DIR", .path) },
    helpSwitch]

/-- A command that does something, under a path of names. -/
def action {α : Type} (path : List String) (about : String) (options : List OptionSpec)
    (places : List Place) (build : Given → α) : Grammar α :=
  .action ⟨path.getLastD "", " ".intercalate (programName :: path), about,
    options ++ globalOptions⟩ places build

/-- The place for the id of a template. -/
def idPlace : Place := { name := "ID" }

def jsonSwitch : OptionSpec := { name := "json" }

def assignments (values : List String) : List (String × String) :=
  values.filterMap fun value => (readAssignment value).toOption

def listGrammar : Grammar Command :=
  action ["list"] "List available templates"
    [{ name := "category", value := some ("CATEGORY", .text) },
      { name := "search", value := some ("SEARCH", .text) }] []
    fun given => .list (given.value? "category") (given.value? "search")

def describeGrammar : Grammar Command :=
  action ["show"] "Show a template's inputs, examples and notes" [] [idPlace]
    fun given => .describe given.first

def generateGrammar : Grammar Command :=
  action ["generate"] "Synthesize a command from a template"
    [{ name := "set", value := some ("NAME=VALUE", .assignment), repeatable := true },
      { name := "strict" }, { name := "save" }, jsonSwitch] [idPlace]
    fun given =>
      .generate given.first (assignments (given.values "set")) (given.has "strict")
        (given.has "save") (given.has "json")

def historyGrammar : Grammar Command :=
  action ["history"] "Show or clear command history" [{ name := "clear" }, jsonSwitch] []
    fun given => .history (given.has "clear") (given.has "json")

/-- The commands on preferences and the system config. -/
def configCommands : List (Grammar Command) :=
  [action ["config", "show"] "Display current settings, preferences and system config" [] []
      fun _ => .config .overview,
    action ["config", "export"] "Print preferences and system config as JSON" [] []
      fun _ => .config .exportText,
    action ["config", "import"] "Merge an exported JSON document" []
      [{ name := "FILE", kind := .path }] fun given => .config (.importFile given.first),
    action ["config", "reset"] "Restore default preferences and system config" [] []
      fun _ => .config .reset,
    action ["config", "favorite"] "Add or remove a template from favorites" [] [idPlace]
      fun given => .config (.favorite given.first)]

def configGrammar : Grammar Command :=
  .group ⟨"config", programName ++ " config", "Manage user preferences and system config",
    globalOptions⟩ configCommands

def lintGrammar : Grammar Command :=
  action ["lint"] "Check templates for authoring mistakes" []
    [{ name := "ID", required := false }] fun given => .lint given.places.head?

def grammar : Grammar Command :=
  .group ⟨programName, programName,
      "Build safe shell commands from administration templates", globalOptions ++ [versionSwitch]⟩
    [listGrammar, describeGrammar, generateGrammar, historyGrammar, configGrammar, lintGrammar]

/-- The value of an option that every command has: the one given last on the way to the command. -/
def globalValue? (levels : List Given) (option : String) : Option String :=
  levels.reverse.findSome? (·.value? option)

/-- What the arguments of the program ask for. -/
def Invocation.read (arguments : List String) : Except Stop Invocation := do
  let (command, levels) ← grammar.read arguments
  return ⟨globalValue? levels "config", globalValue? levels "data-dir", command⟩

end CommandSynthesis.CommandLine
