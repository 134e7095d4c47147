import CommandSynthesis.Json.Decoder
import CommandSynthesis.Store.Basic

set_option autoImplicit false

/-!
# Bindings

The values that a caller gives to the inputs of a template, by name. A name has one value: the one
given last.
-/

namespace CommandSynthesis

/-- Names with their values, in the order in which the names were first given. -/
structure Bindings where
  entries : List (String × String)
  deriving DecidableEq, Repr, Inhabited

namespace Bindings

def empty : Bindings := ⟨[]⟩

def find? (bindings : Bindings) (name : String) : Option String :=
  bindings.entries.lookup name

/-- Gives a name a value, in place of the one it may have. -/
def insert (bindings : Bindings) (name value : String) : Bindings :=
  ⟨Entries.put name value bindings.entries⟩

def erase (bindings : Bindings) (name : String) : Bindings :=
  ⟨bindings.entries.filter fun entry => entry.1 ≠ name⟩

def ofList (entries : List (String × String)) : Bindings :=
  entries.foldl (fun bindings entry => bindings.insert entry.1 entry.2) empty

theorem find?_insert (bindings : Bindings) (name value other : String) :
    (bindings.insert name value).find? other =
      if other = name then some value else bindings.find? other :=
  Entries.lookup_put name value other bindings.entries

theorem find?_erase (bindings : Bindings) (name other : String) :
    (bindings.erase name).find? other = if other = name then none else bindings.find? other :=
  Entries.lookup_filter_ne name other bindings.entries

def encode (bindings : Bindings) : Json :=
  .object (bindings.entries.map fun entry => (entry.1, .string entry.2))

def decodeMembers (origin : Origin) (bindings : Bindings) :
    List (Outline × Outline) → Except Misfit Bindings
  | [] => .ok bindings
  | (key, value) :: rest => do
    let name ← Decoder.key key
    let text ← Decoder.string origin value
    decodeMembers origin (bindings.insert name text) rest

def decode : Decoder Bindings
  | origin, .object members stop => do
    let bindings ← decodeMembers (← origin.enter) empty members
    Misfit.stopped stop
    return bindings
  | _, found => .error (found.refuse "a map")

end Bindings

end CommandSynthesis
