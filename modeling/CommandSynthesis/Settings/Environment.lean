import CommandSynthesis.Store.FilePath

set_option autoImplicit false

/-!
# Environment

The variables of the environment, the home directory that the account of the user has, and the
places of data and settings that follow from them.
-/

namespace CommandSynthesis

structure Environment where
  entries : List (String × String) := []
  /-- The home directory in the entry of the user in the password database. -/
  accountHome : Option String := none
  deriving DecidableEq, Repr, Inhabited

namespace Environment

/-- Variables, for a user without an account. -/
instance : Coe (List (String × String)) Environment where
  coe entries := { entries }

def lookup (environment : Environment) (variableName : String) : Option String :=
  environment.entries.lookup variableName

/-- The home directory: that of the account when the variable for it is unset or empty. -/
def home? (environment : Environment) : Option String :=
  let named (path : String) : Bool := ¬ path.isEmpty
  (environment.lookup "HOME").filter named <|> environment.accountHome.filter named

/-- The directory that a variable names, or else one below the home directory. A path that is not
absolute does not count. -/
def directory? (environment : Environment) (variableName below : String) : Option String :=
  match (environment.lookup variableName).filter Path.isAbsolute with
  | some path => some path
  | none => environment.home?.map fun home => Path.join home below

/-- The directory for data when none is given. -/
def dataDirectory (environment : Environment) : String :=
  Path.join ((environment.directory? "XDG_DATA_HOME" ".local/share").getD "/tmp") "cmdsmith"

/-- The file with the settings when none is given. -/
def settingsPath (environment : Environment) : String :=
  match environment.lookup "CMDSMITH_CONFIG" with
  | some path => path
  | none =>
    let directory := (environment.directory? "XDG_CONFIG_HOME" ".config").getD "."
    Path.join (Path.join directory "cmdsmith") "config.toml"

end Environment

end CommandSynthesis
