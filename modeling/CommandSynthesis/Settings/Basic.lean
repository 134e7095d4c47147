import CommandSynthesis.Settings.Environment

set_option autoImplicit false

/-!
# Settings

What the settings file says: where data is kept, what is logged, and how commands are made. What it
does not say has a default.
-/

namespace CommandSynthesis

namespace Settings

structure Storage where
  dataDirectory : String
  deriving DecidableEq, Repr

structure Log where
  level : String := "warn"
  deriving DecidableEq, Repr

structure Engine where
  /-- Whether references without a value are errors. -/
  strict : Bool := false
  /-- The length of the history, in place of the one from the preferences. -/
  historyCapacity : Option Nat := none
  deriving DecidableEq, Repr

/-- The storage when nothing is said of it. -/
def Storage.default (environment : Environment) : Storage :=
  ⟨environment.dataDirectory⟩

end Settings

structure Settings where
  store : Settings.Storage
  log : Settings.Log
  engine : Settings.Engine
  deriving DecidableEq, Repr

namespace Settings

def default (environment : Environment) : Settings :=
  ⟨.default environment, {}, {}⟩

end Settings

end CommandSynthesis
