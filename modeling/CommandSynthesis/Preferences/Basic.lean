import CommandSynthesis.History.Basic
import CommandSynthesis.Template.Basic

set_option autoImplicit false

/-!
# Preferences

What a user prefers, and how the system is laid out, both with their defaults.
-/

namespace CommandSynthesis

inductive Theme where
  | light
  | dark
  | system
  deriving DecidableEq, Repr, Inhabited

/-- What a user prefers. -/
structure Preferences where
  /-- The system id that is filled in. -/
  defaultSid : String := "HDB"
  defaultInstanceNumber : String := "00"
  /-- The ids of the templates that the user likes. -/
  favorites : List String := []
  theme : Theme := .system
  /-- The capacity of the history. -/
  historyLimit : UInt64 := History.defaultCapacity
  showDangerWarnings : Bool := true
  /-- Whether valid commands are saved unasked. -/
  autoSaveHistory : Bool := true
  deriving DecidableEq, Repr, Inhabited

structure CommonPaths where
  sapInstallPath : String := "/usr/sap"
  logDirectory : String := "/var/log"
  backupDirectory : String := "/backup"
  temporaryDirectory : String := "/tmp"
  deriving DecidableEq, Repr, Inhabited

structure NetworkSettings where
  defaultTestHost : String := "google.com"
  timeoutSeconds : UInt64 := 30
  deriving DecidableEq, Repr, Inhabited

structure SecuritySettings where
  allowDangerousCommands : Bool := false
  requireConfirmation : Bool := true
  deriving DecidableEq, Repr, Inhabited

/-- How the system is laid out. -/
structure SystemConfig where
  commonPaths : CommonPaths := {}
  networkSettings : NetworkSettings := {}
  securitySettings : SecuritySettings := {}
  deriving DecidableEq, Repr, Inhabited

namespace Theme

def name : Theme → String
  | light => "light"
  | dark => "dark"
  | system => "system"

end Theme

namespace Preferences

/-- The values that preferences give to inputs. -/
def defaults (preferences : Preferences) : List (String × String) :=
  [("sid", preferences.defaultSid), ("instanceNumber", preferences.defaultInstanceNumber)]

/-- Gives a name a value if a template has an input with the name and no value is given. -/
def applyDefault (template : Template) (bindings : Bindings) (name value : String) : Bindings :=
  if (template.findInput? name).isSome ∧ (bindings.find? name).isNone then
    bindings.insert name value
  else bindings

/-- Gives the inputs of a template the preferred values where none are given. -/
def applyDefaults (preferences : Preferences) (template : Template) (bindings : Bindings) :
    Bindings :=
  preferences.defaults.foldl
    (fun bindings (name, value) => applyDefault template bindings name value) bindings

/-- Adds an id to the favorites, or takes it away if it is there. -/
def toggleFavorite (preferences : Preferences) (id : String) : Preferences :=
  if preferences.favorites.contains id then
    { preferences with favorites := preferences.favorites.erase id }
  else { preferences with favorites := preferences.favorites ++ [id] }

end Preferences

end CommandSynthesis
