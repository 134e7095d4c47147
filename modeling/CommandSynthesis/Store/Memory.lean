import CommandSynthesis.Store.Basic

set_option autoImplicit false

/-!
# Stores in memory

A store that lasts as long as its value. Nothing can fail.
-/

namespace CommandSynthesis

/-- Keys with their texts, each key once. -/
structure MemoryStore where
  entries : List (String × String)
  deriving DecidableEq, Repr, Inhabited

namespace MemoryStore

def empty : MemoryStore := ⟨[]⟩

def get? (store : MemoryStore) (key : String) : Option String :=
  store.entries.lookup key

def insert (store : MemoryStore) (key text : String) : MemoryStore :=
  ⟨Entries.put key text store.entries⟩

def erase (store : MemoryStore) (key : String) : MemoryStore :=
  ⟨store.entries.filter fun entry => entry.1 ≠ key⟩

def size (store : MemoryStore) : Nat :=
  store.entries.length

theorem get?_insert (store : MemoryStore) (key text other : String) :
    (store.insert key text).get? other = if other = key then some text else store.get? other :=
  Entries.lookup_put key text other store.entries

theorem get?_erase (store : MemoryStore) (key other : String) :
    (store.erase key).get? other = if other = key then none else store.get? other :=
  Entries.lookup_filter_ne key other store.entries

instance : Store MemoryStore where
  get? := get?
  set key text := modify fun store => store.insert key text
  remove key := modify fun store => store.erase key

end MemoryStore

end CommandSynthesis
