import CommandSynthesis.Store.Basic

set_option autoImplicit false

/-!
# Stores that fail

A store in front of which some operations fail: writing and removing of some keys, writing after a
number of successful writes, and reading of some keys, which gives nothing. An operation that fails
does not reach the store behind.
-/

namespace CommandSynthesis

structure Faults where
  set : List String := []
  remove : List String := []
  get : List String := []
  /-- How many more writes succeed; none when there is no limit. -/
  budget : Option Nat := none
  deriving DecidableEq, Repr, Inhabited

/-- A store and the operations that fail in front of it. -/
structure FaultyStore (σ : Type) where
  store : σ
  faults : Faults

namespace FaultyStore

variable {σ α : Type}

/-- Does something to the store behind. -/
def inner (action : Action σ α) : Action (FaultyStore σ) α := do
  let faulty ← getThe (FaultyStore σ)
  let (outcome, store) := action.perform faulty.store
  MonadStateOf.set { faulty with store }
  match outcome with
  | .ok value => return value
  | .error failure => throw failure

/-- Counts a successful write. -/
def spend : Action (FaultyStore σ) Unit :=
  modify fun faulty =>
    { faulty with faults := { faulty.faults with budget := faulty.faults.budget.map (· - 1) } }

def get? [Store σ] (faulty : FaultyStore σ) (key : String) : Option String :=
  if faulty.faults.get.contains key then none else Store.get? faulty.store key

def set [Store σ] (key text : String) : Action (FaultyStore σ) Unit := do
  let faulty ← getThe (FaultyStore σ)
  if faulty.faults.set.contains key then throw (.store ("cannot set " ++ key))
  if faulty.faults.budget = some 0 then throw (.store "disk full")
  inner (Store.set key text)
  spend

def remove [Store σ] (key : String) : Action (FaultyStore σ) Unit := do
  let faulty ← getThe (FaultyStore σ)
  if faulty.faults.remove.contains key then throw (.store ("cannot remove " ++ key))
  inner (Store.remove key)

instance [Store σ] : Store (FaultyStore σ) where
  get? := get?
  set := set
  remove := remove

end FaultyStore

end CommandSynthesis
