set_option autoImplicit false

/-!
# Stores

A store keeps texts under keys. Reading never fails: a text that is absent or cannot be read is
none. Writing and removing can fail, and leave the store in some state even then.

What is kept in memory is a list of entries, keys with values, in which the first entry of a key
counts.
-/

namespace CommandSynthesis

/-! ## Entries -/

namespace Entries

variable {Key Value : Type} [DecidableEq Key]

/-- Gives a key a value, in the place of the one it may have. -/
def put (key : Key) (value : Value) : List (Key × Value) → List (Key × Value)
  | [] => [(key, value)]
  | (other, old) :: rest =>
    if other = key then (key, value) :: rest else (other, old) :: put key value rest

variable [BEq Key] [LawfulBEq Key]

theorem lookup_put (key : Key) (value : Value) (other : Key) (entries : List (Key × Value)) :
    (put key value entries).lookup other =
      if other = key then some value else entries.lookup other := by
  induction entries with
  | nil => by_cases h : other = key <;> simp [put, List.lookup_cons, h, beq_false_of_ne]
  | cons entry rest ih =>
    obtain ⟨first, old⟩ := entry
    by_cases same : first = key
    · subst same
      by_cases h : other = first
      · simp [put, h]
      · simp [put, List.lookup_cons, h, beq_false_of_ne h]
    · by_cases h : other = first
      · subst h
        simp [put, same]
      · simp [put, List.lookup_cons, same, beq_false_of_ne h, ih]

/-- When the entries of a key are taken away, the other keys keep their values. -/
theorem lookup_filter_ne (key other : Key) (entries : List (Key × Value)) :
    (entries.filter fun entry => entry.1 ≠ key).lookup other =
      if other = key then none else entries.lookup other := by
  induction entries with
  | nil => simp
  | cons entry rest ih =>
    obtain ⟨first, value⟩ := entry
    by_cases same : first = key
    · rw [List.filter_cons_of_neg (by simp [same]), ih, same]
      by_cases h : other = key <;> simp [List.lookup_cons, h, beq_false_of_ne]
    · rw [List.filter_cons_of_pos (by simp [same]), List.lookup_cons, List.lookup_cons, ih]
      by_cases h : other = first
      · simp [h, same]
      · simp [beq_false_of_ne h]

end Entries

/-! ## Failures and actions -/

inductive FileError where
  | notFound
  | alreadyExists
  | notADirectory
  | isADirectory
  | nameTooLong
  | invalidPath
  | invalidText
  deriving DecidableEq, Repr

namespace FileError

def message : FileError → String
  | notFound => "No such file or directory (os error 2)"
  | alreadyExists => "File exists (os error 17)"
  | notADirectory => "Not a directory (os error 20)"
  | isADirectory => "Is a directory (os error 21)"
  | nameTooLong => "File name too long (os error 36)"
  | invalidPath => "file name contained an unexpected NUL byte"
  | invalidText => "stream did not contain valid UTF-8"

end FileError

/-- Why something that was asked for cannot be done. -/
inductive Failure where
  | unknownTemplate (id : String)
  | store (reason : String)
  | config (reason : String)
  | file (error : FileError)
  deriving DecidableEq, Repr

namespace Failure

def message : Failure → String
  | unknownTemplate id => "Unknown template: " ++ id
  | store reason => "Store error: " ++ reason
  | config reason => "Config error: " ++ reason
  | file error => "IO error: " ++ error.message

end Failure

/-- Something that is done to a store and may fail; the store is kept in either case. -/
abbrev Action (σ : Type) := ExceptT Failure (StateM σ)

/-- A type whose values keep texts under keys. -/
class Store (σ : Type) where
  /-- The text of a key. -/
  get? : σ → String → Option String
  /-- Gives a key a text. -/
  set : String → String → Action σ Unit
  /-- Takes the text of a key away; there need be none. -/
  remove : String → Action σ Unit

namespace Action

variable {σ α : Type}

/-- The text of a key in the store at hand. -/
def get? [Store σ] (key : String) : Action σ (Option String) := do
  let store ← getThe σ
  return Store.get? store key

/-- Does something to a store: how it ends, and the store afterwards. -/
def perform (action : Action σ α) (store : σ) : Except Failure α × σ :=
  StateT.run (ExceptT.run action) store

/-- How something ends, as a value. -/
def attempt (action : Action σ α) : Action σ (Except Failure α) := fun store =>
  let (outcome, store) := action.perform store
  (.ok outcome, store)

end Action

end CommandSynthesis
