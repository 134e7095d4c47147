import CommandSynthesis.Settings.Basic
import CommandSynthesis.Store.FileTree
import CommandSynthesis.Toml.Printer
import CommandSynthesis.Toml.Reader

set_option autoImplicit false

/-!
# The settings file

Settings are written as a TOML document with one table for each section. In a document that is read
a section may also be the list of its values in their order, keys that mean nothing are passed over,
and what is missing has its default.
-/

namespace CommandSynthesis

namespace Toml

/-- The values of a section by name. A moment counts as a section that says nothing, and values
beyond the names as not given. -/
def Value.fields? (names : List String) : Value → Option Members
  | .table members => some members
  | .array items => some (names.zip items)
  | .moment _ => some []
  | _ => none

def Value.text? : Value → Option String
  | .string text => some text
  | _ => none

def Value.bool? : Value → Option Bool
  | .bool value => some value
  | _ => none

def Value.natural? : Value → Option Nat
  | .integer value => if 0 ≤ value then some value.toNat else none
  | _ => none

/-- What a member says, or a default when it is missing; none when it does not fit. -/
def Members.read? {α : Type} (members : Members) (name : String) (convert : Value → Option α)
    (default : α) : Option α :=
  match members.lookup name with
  | some value => convert value
  | none => some default

end Toml

namespace Settings

open Toml

def Storage.ofToml? (environment : Environment) (value : Value) : Option Storage := do
  let fields ← value.fields? ["data_dir"]
  return ⟨← fields.read? "data_dir" Value.text? environment.dataDirectory⟩

def Log.ofToml? (value : Value) : Option Log := do
  let fields ← value.fields? ["level"]
  let default : Log := {}
  return ⟨← fields.read? "level" Value.text? default.level⟩

def Engine.ofToml? (value : Value) : Option Engine := do
  let fields ← value.fields? ["strict", "history_capacity"]
  let default : Engine := {}
  return {
    strict := ← fields.read? "strict" Value.bool? default.strict
    historyCapacity := ←
      fields.read? "history_capacity" (fun value => value.natural?.map some)
        default.historyCapacity }

/-- The settings in a document, if the text is one and its sections fit. -/
def parse? (environment : Environment) (text : String) : Option Settings := do
  let members ← Toml.parse? text
  let default := Settings.default environment
  return {
    store := ← members.read? "store" (Storage.ofToml? environment) default.store
    log := ← members.read? "log" Log.ofToml? default.log
    engine := ← members.read? "engine" Engine.ofToml? default.engine }

/-- The lines for the section on making commands. -/
def Engine.lines? (engine : Engine) : Option (List String) :=
  let strict := printPair "strict" (printBool engine.strict)
  match engine.historyCapacity with
  | none => some [strict]
  | some capacity =>
    (printNat? capacity).map fun capacity => [strict, printPair "history_capacity" capacity]

def print (settings : Settings) : Except Failure String :=
  match settings.engine.lines? with
  | none => .error (.config "failed to serialize settings: out-of-range value for u64 type")
  | some engine =>
    .ok ("\n".intercalate [
      printTable "store" [printPair "data_dir" (printString settings.store.dataDirectory)],
      printTable "log" [printPair "level" (printString settings.log.level)],
      printTable "engine" engine])

/-- The settings in the file at a path; the defaults when there is no such file. -/
def load (environment : Environment) (tree : FileTree) (path : String) :
    Except Failure Settings :=
  match tree.readText path with
  | .ok text =>
    match parse? environment text with
    | some settings => .ok settings
    | none => .error (.config (path ++ ": TOML error: TOML parse error"))
  | .error .notFound => .ok (default environment)
  | .error error => .error (.file error)

end Settings

end CommandSynthesis
