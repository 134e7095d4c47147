import CommandSynthesis.Json.Overlay
import CommandSynthesis.Json.Printer
import CommandSynthesis.Preferences.Codec
import CommandSynthesis.Store.Basic

set_option autoImplicit false

/-!
# Stored preferences

The preferences and the layout of the system are two documents in a store. A document that is absent
or cannot be read counts as the defaults. A patch is laid over the document, and the result must
still be one; nothing is written otherwise.
-/

namespace CommandSynthesis

/-- A kind of document: its key, and how its values are written and read. -/
class StoredDocument (α : Type) where
  key : String
  default : α
  encode : α → Json
  decode : Decoder α

instance : StoredDocument Preferences where
  key := "cmdsmith-preferences"
  default := {}
  encode := Preferences.encode
  decode := Preferences.decode

instance : StoredDocument SystemConfig where
  key := "cmdsmith-system-config"
  default := {}
  encode := SystemConfig.encode
  decode := SystemConfig.decode

namespace Misfit

def message : Misfit → String
  | fault .malformed => "malformed text"
  | fault .truncated => "text ends too soon"
  | mismatch reason => reason.message

end Misfit

namespace StoredDocument

variable {σ α : Type} [Store σ] [StoredDocument α]

def ofText (text : Option String) : α :=
  match text with
  | none => default
  | some text =>
    match (decode : Decoder α).ofText text with
    | .ok value => value
    | .error _ => default

def load (store : σ) : α :=
  ofText (Store.get? store (key α))

/-- A document with a patch laid over it. -/
def patched (current : α) (patch : Json) : Except Failure α :=
  if patch.isObject then
    let merged := Json.overlay (encode current).sorted patch
    ((decode : Decoder α).ofValue merged).mapError fun misfit =>
      .config ("invalid value for '" ++ key α ++ "': " ++ misfit.message)
  else .error (.config ("'" ++ key α ++ "' patch must be a JSON object"))

def save (value : α) : Action σ Unit :=
  Store.set (key α) (encode value).compact

/-- Lays a patch over a document and writes the result. -/
def update (patch : Json) : Action σ α := do
  let current : α := ofText (← Action.get? (key α))
  match patched current patch with
  | .error failure => throw failure
  | .ok updated =>
    save updated
    return updated

end StoredDocument

namespace Preferences

open StoredDocument

variable {σ : Type} [Store σ]

/-- Adds an id to the favorites or takes it away; tells whether it is a favorite now. -/
def toggle (id : String) : Action σ Bool := do
  let current : Preferences := ofText (← Action.get? (key Preferences))
  save (current.toggleFavorite id)
  return ¬ current.favorites.contains id

def reset : Action σ Unit := do
  Store.remove (key Preferences)
  Store.remove (key SystemConfig)

def exportValue (preferences : Preferences) (config : SystemConfig) : Json :=
  .object [("preferences", preferences.encode), ("systemConfig", config.encode)]

def exportText (store : σ) : String :=
  (exportValue (load store) (load store)).pretty

/-- The document that a section of an imported value gives: none when there is no section. -/
def importSection {α : Type} [StoredDocument α] (current : α) (patch : Option Json) :
    Except Failure (Option α) :=
  match patch with
  | none => .ok none
  | some .null => .ok none
  | some patch => (patched current patch).map some

def saveSome {α : Type} [StoredDocument α] : Option α → Action σ Unit
  | none => return ()
  | some value => save value

/-- Puts back the text that a key had. -/
def restore (key : String) : Option String → Action σ Unit
  | some text => Store.set key text
  | none => Store.remove key

/-- Writes both documents. When the second cannot be written, the first is put back. -/
def saveBoth (preferences : Option Preferences) (config : Option SystemConfig) :
    Action σ Unit := do
  let previous ← Action.get? (key Preferences)
  saveSome preferences
  match ← Action.attempt (saveSome config) with
  | .ok () => return ()
  | .error failure =>
    if preferences.isSome then
      let _ ← Action.attempt (restore (key Preferences) previous)
    throw failure

/-- Lays the sections of a value over the documents. -/
def importValue (value : Json) : Action σ Unit := do
  let preferences : Preferences := ofText (← Action.get? (key Preferences))
  let config : SystemConfig := ofText (← Action.get? (key SystemConfig))
  match importSection preferences (value.get? "preferences"),
      importSection config (value.get? "systemConfig") with
  | .ok preferences, .ok config => saveBoth preferences config
  | .error failure, _ => throw failure
  | _, .error failure => throw failure

/-- Lays the sections of a text over the documents; tells whether it could be done. A value that is
no object has no sections. -/
def importText (text : String) : Action σ Bool := do
  match Json.parse text with
  | .error _ => return false
  | .ok value =>
    match ← Action.attempt (importValue value) with
    | .ok () => return true
    | .error _ => return false

end Preferences

end CommandSynthesis
