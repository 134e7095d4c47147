import CommandSynthesis.Log.Filter
import CommandSynthesis.Settings.Basic
import CommandSynthesis.Store.Files

set_option autoImplicit false

/-!
# Sessions

One run of the program: what a command finds when it starts, what it writes, and the failure that
may end it.
-/

namespace CommandSynthesis.CommandLine

open Log (Event)

/-- What a command finds when it starts. -/
structure Context where
  settings : Settings
  /-- The file that the settings are from, which need not be there. -/
  settingsPath : String
  /-- The capacity of the history. -/
  capacity : UInt64
  filter : Log.Filter
  /-- Whether the log is coloured. -/
  colored : Bool
  now : Instant

/-- The store, and what has been written so far: output, and messages. -/
structure Session where
  store : FileStore
  output : String := ""
  messages : String := ""

/-- A failure that ends a command, and what caused it, the nearest cause first. -/
structure Complaint where
  message : String
  causes : List String := []
  deriving DecidableEq, Repr

namespace Complaint

/-- The cause of a failure, where it has one of its own. -/
def causesOf : Failure → List String
  | .file error => [error.message]
  | _ => []

def ofFailure (failure : Failure) : Complaint :=
  ⟨failure.message, causesOf failure⟩

def during (attempt : String) (failure : Failure) : Complaint :=
  ⟨attempt, failure.message :: causesOf failure⟩

/-- A text whose lines but the first are indented. -/
def indented (margin : String) (text : String) : String :=
  ("\n" ++ margin).intercalate ((text.toList.splitOn '\n').map String.ofList)

/-- The line for a cause with its number. -/
def numberedCause (number : Nat) (cause : String) : String :=
  let digits := Decimal.ofNat number
  String.ofList (List.replicate (5 - digits.length) ' ') ++ digits ++ ": "
    ++ indented "       " cause

/-- The lines for the causes; they are numbered if there are several. -/
def causeLines : List String → List String
  | [] => []
  | [cause] => ["", "Caused by:", "    " ++ indented "    " cause]
  | causes =>
    ["", "Caused by:"] ++ causes.mapIdx numberedCause

/-- What is written when a complaint ends the program. -/
def print (complaint : Complaint) : String :=
  "\n".intercalate (("Error: " ++ complaint.message) :: causeLines complaint.causes) ++ "\n"

end Complaint

/-- A part of a command. -/
abbrev Step := ExceptT Complaint (StateM Session)

namespace Step

def line (text : String) : Step Unit :=
  modify fun session => { session with output := session.output ++ text ++ "\n" }

def lines (texts : List String) : Step Unit :=
  texts.forM line

def message (text : String) : Step Unit :=
  modify fun session => { session with messages := session.messages ++ text ++ "\n" }

def messages (texts : List String) : Step Unit :=
  texts.forM message

/-- Logs an event, if the filter lets it through. -/
def log (context : Context) (event : Event) : Step Unit :=
  if context.filter.allows event then message (event.line context.colored context.now)
  else return ()

/-- Logs what there is to say of the store as it is. -/
def note (context : Context) (notes : FileStore → List Event) : Step Unit := do
  (notes (← get).store).forM (log context)

def perform {α : Type} (action : Action FileStore α) : Step (Except Failure α) := do
  let session ← get
  let (outcome, store) := action.perform session.store
  set { session with store }
  return outcome

/-- Does something to the store, and ends the command if it fails. -/
def require {α : Type} (action : Action FileStore α) (complain : Failure → Complaint) :
    Step α := do
  match ← perform action with
  | .ok value => return value
  | .error failure => throw (complain failure)

end Step

end CommandSynthesis.CommandLine
