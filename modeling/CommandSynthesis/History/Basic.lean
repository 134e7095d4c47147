import CommandSynthesis.Json.Printer
import CommandSynthesis.Store.Basic
import CommandSynthesis.Synthesis.Codec

set_option autoImplicit false

/-!
# History

The commands that were saved, the newest first. All of them are one text in a store, and adding one
drops the oldest beyond a capacity. A text that is no list of commands counts as no commands.
-/

namespace CommandSynthesis.History

def key : String := "command-history"

def defaultCapacity : UInt64 := 50

def encode (entries : List Synthesis) : Json :=
  .array (entries.map Synthesis.encode)

def decode : Decoder (List Synthesis) :=
  Decoder.list Synthesis.decode

def ofText (text : Option String) : List Synthesis :=
  match text with
  | none => []
  | some text =>
    match decode.ofText text with
    | .ok entries => entries
    | .error _ => []

variable {σ : Type} [Store σ]

def list (store : σ) : List Synthesis :=
  ofText (Store.get? store key)

/-- Saves a command, and drops the oldest beyond a capacity. -/
def append (capacity : UInt64) (entry : Synthesis) : Action σ Unit := do
  let entries := ofText (← Action.get? key)
  Store.set key (encode ((entry :: entries).take capacity.toNat)).compact

def clear : Action σ Unit :=
  Store.remove key

end CommandSynthesis.History
