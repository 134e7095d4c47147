import CommandSynthesis.Log.Basic
import CommandSynthesis.Preferences.Documents
import CommandSynthesis.Store.Files

set_option autoImplicit false

/-!
# Notes

What there is to log of the work on a store in files. What is logged is a function of the store
before the work, so that logging changes nothing.
-/

namespace CommandSynthesis

open Log (Event)

/-- A note on something that is of use only to those who look for a fault. -/
def Log.debug (source : Log.Source) (message : String) : Event := ⟨.debug, source, message⟩

/-- A note on something that should not be. -/
def Log.warning (source : Log.Source) (message : String) : Event := ⟨.warn, source, message⟩

namespace FileStore

/-- Notes on the reading of a key: one when its file is there and cannot be read. -/
def readNotes (store : FileStore) (key : String) : List Event :=
  (store.readError? key).toList.map fun error =>
    Log.debug .store
      ("Treating unreadable " ++ store.pathFor key ++ " as absent: " ++ error.message)

end FileStore

namespace StoredDocument

variable (α : Type) [StoredDocument α]

def loadNotes (store : FileStore) : List Event :=
  let key := StoredDocument.key α
  let unfit :=
    match (Store.get? store key).map (decode : Decoder α).ofText with
    | some (.error misfit) =>
      [Log.debug .preferences
        ("Using defaults for unreadable '" ++ key ++ "': " ++ misfit.message)]
    | _ => []
  store.readNotes key ++ unfit

/-- Notes on the writing of a document, given how it ended. -/
def saveNotes (outcome : Except Failure Unit) : List Event :=
  match outcome with
  | .ok () => []
  | .error failure =>
    [Log.warning .preferences
      ("Failed to save '" ++ StoredDocument.key α ++ "': " ++ failure.message)]

end StoredDocument

namespace History

def listNotes (store : FileStore) : List Event :=
  let unfit :=
    match (Store.get? store key).map decode.ofText with
    | some (.error misfit) =>
      [Log.debug .history ("Ignoring unreadable command history: " ++ misfit.message)]
    | _ => []
  store.readNotes key ++ unfit

def appendNotes (capacity : UInt64) (entry : Synthesis) (store : FileStore) : List Event :=
  let failed :=
    match ((append capacity entry).perform store).1 with
    | .ok () => []
    | .error failure =>
      [Log.warning .history ("Failed to save command to history: " ++ failure.message)]
  listNotes store ++ failed

end History

/-- The note on a command that was made. -/
def Template.synthesisNote (template : Template) (result : Synthesis) : Event :=
  Log.debug .engine ("Synthesized '" ++ template.id ++ "' with "
    ++ Decimal.ofNat result.errors.length ++ " validation error(s)")

namespace Preferences

open StoredDocument

def exportNotes (store : FileStore) : List Event :=
  loadNotes Preferences store ++ loadNotes SystemConfig store

/-- Notes on the adding or taking away of a favorite. -/
def toggleNotes (id : String) (store : FileStore) : List Event :=
  let outcome := ((toggle id).perform store).1
  loadNotes Preferences store ++ saveNotes Preferences (outcome.map fun _ => ())

/-- The note on an import that is refused. -/
def rejected (reason : String) : Event :=
  Log.debug .preferences ("Rejected config import: " ++ reason)

def sectionNotes (α : Type) [StoredDocument α] (store : FileStore) (patch : Option Json) :
    List Event :=
  match patch with
  | none => []
  | some .null => []
  | some patch =>
    let loading := if patch.isObject then loadNotes α store else []
    match patched (load store : α) patch with
    | .ok _ => loading
    | .error failure => loading ++ [rejected failure.message]

def saveBothNotes (preferences : Option Preferences) (config : Option SystemConfig)
    (store : FileStore) : List Event :=
  let key := StoredDocument.key Preferences
  let (first, after) := (saveSome preferences).perform store
  match first with
  | .error _ => saveNotes Preferences first
  | .ok () =>
    let (second, after) := (saveSome config).perform after
    match second with
    | .ok () => []
    | .error _ =>
      let restored :=
        if preferences.isSome then ((restore key (Store.get? store key)).perform after).1
        else .ok ()
      let failed :=
        match restored with
        | .ok () => []
        | .error failure =>
          [Log.warning .preferences ("Failed to restore '" ++ key
            ++ "' after an aborted import: " ++ failure.message)]
      saveNotes SystemConfig second ++ failed

def importNotes (text : String) (store : FileStore) : List Event :=
  match Json.parse text with
  | .error fault => [rejected (Misfit.fault fault).message]
  | .ok value =>
    if ¬ value.isObject then
      [Log.debug .preferences "Config import is not an object; nothing to merge"]
    else
      let patch := value.get? "preferences"
      let configPatch := value.get? "systemConfig"
      let notes := sectionNotes Preferences store patch
      match importSection (load store) patch with
      | .error _ => notes
      | .ok preferences =>
        let notes := notes ++ sectionNotes SystemConfig store configPatch
        match importSection (load store) configPatch with
        | .error _ => notes
        | .ok config =>
          notes ++ store.readNotes (StoredDocument.key Preferences)
            ++ saveBothNotes preferences config store

end Preferences

end CommandSynthesis
