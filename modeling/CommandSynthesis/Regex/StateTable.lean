import Std.Data.HashMap

set_option autoImplicit false

/-!
# Tables of states

States of a machine under the numbers that say what they do, so that one that is there already is
not built again. A table has a fixed number of places; where two states fall on one place, the later
one stays.
-/

namespace CommandSynthesis.Regex

/-- Mixes numbers to one of 64 bits: each is put on top and the whole multiplied by a prime. -/
def mix (key : List Nat) : UInt64 :=
  key.foldl (fun mixed number => (mixed ^^^ UInt64.ofNat number) * 0x100000001B3)
    0xCBF29CE484222325

/-- States under their keys, each at a place given by its key. -/
structure StateTable where
  places : UInt64
  entries : Std.HashMap UInt64 (List Nat × Nat)

namespace StateTable

/-- A table with a number of places, all free. -/
def ofPlaces (places : UInt64) : StateTable :=
  ⟨places, ∅⟩

def place (table : StateTable) (key : List Nat) : UInt64 :=
  mix key % table.places

/-- The state under a key, if it is still there. -/
def find? (table : StateTable) (key : List Nat) : Option Nat :=
  match table.entries[table.place key]? with
  | some (other, state) => if other = key then some state else none
  | none => none

/-- Puts a state at the place of its key. -/
def insert (table : StateTable) (key : List Nat) (state : Nat) : StateTable :=
  { table with entries := table.entries.insert (table.place key) (key, state) }

end StateTable

end CommandSynthesis.Regex
