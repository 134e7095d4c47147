import CommandSynthesis.History.Basic
import CommandSynthesis.Proofs.Store.Views
import CommandSynthesis.Proofs.Synthesis.RoundTrip

set_option autoImplicit false

/-!
# Runs of a history

Calls on one store, each through a history with a capacity of its own. Where calls on the history
are atomic, as in memory and in files, the saved commands are at any time what the calls that
succeeded make of the commands at the start; those that failed count for nothing.
-/

namespace CommandSynthesis.History

open Json

theorem isIntegral_encode (entries : List Synthesis) : IsIntegral (encode entries) := by
  change AreIntegral _
  induction entries with
  | nil => trivial
  | cons entry entries ih => exact ⟨entry.isIntegral_encode, ih⟩

theorem isDistinct_encode (entries : List Synthesis) : IsDistinct (encode entries) := by
  change AreDistinct _
  induction entries with
  | nil => trivial
  | cons entry entries ih => exact ⟨entry.isDistinct_encode, ih⟩

theorem ofText_encode (entries : List Synthesis) :
    ofText (some (encode entries).compact) = entries := by
  have makes : Decoder.Makes decode 3 (encode entries) entries :=
    Decoder.makes_list fun entry _ => entry.makes_decode
  have read := makes.ofText_compact (by decide) (isIntegral_encode entries)
    (isDistinct_encode entries)
  simp only [ofText, read]

inductive Call where
  | append (capacity : UInt64) (entry : Synthesis)
  | clear
  deriving DecidableEq, Repr

namespace Call

def action {σ : Type} [Store σ] : Call → Action σ Unit
  | append capacity entry => History.append capacity entry
  | clear => History.clear

/-- The commands after a call that succeeds. -/
def apply (previous : List Synthesis) : Call → List Synthesis
  | append capacity entry => (entry :: previous).take capacity.toNat
  | clear => []

end Call

/-- A call, how it ended, and the store afterwards. -/
structure Step (σ : Type) where
  call : Call
  outcome : Except Failure Unit
  after : σ

variable {σ : Type}

/-- The commands after a step. -/
def Step.follow (previous : List Synthesis) (step : Step σ) : List Synthesis :=
  match step.outcome with
  | .ok () => step.call.apply previous
  | .error _ => previous

variable [Store σ]

/-- The steps of one call after another. -/
def steps (store : σ) : List Call → List (Step σ)
  | [] => []
  | call :: later =>
    let result := call.action.perform store
    ⟨call, result.1, result.2⟩ :: steps result.2 later

section Call

variable {keys views : Set String} {good : σ → Prop} (atomic : Store.AtomicOn keys views good)
  (called : key ∈ keys)

include atomic called

theorem settles_call {store : σ} (start : good store) (call : Call) :
    ∃ text, ofText text = call.apply (list store) ∧
      Store.SettlesOn views good store (Function.update (Store.get? store) key text)
        (call.action.perform store) := by
  cases call with
  | append capacity entry =>
    refine ⟨_, ofText_encode _, ?_⟩
    change Store.SettlesOn _ _ _ _ ((append capacity entry).perform store)
    unfold append
    rw [Action.perform_bind_ok (Action.perform_get? _ _)]
    exact atomic.set start key called _
  | clear => exact ⟨none, rfl, atomic.remove start key called⟩

theorem good_and_list_after_call (viewed : key ∈ views) {store after : σ} (start : good store)
    {call : Call} {outcome : Except Failure Unit}
    (performed : call.action.perform store = (outcome, after)) :
    good after ∧ list after = Step.follow (list store) ⟨call, outcome, after⟩ := by
  obtain ⟨text, read, settles⟩ := settles_call atomic called start call
  rw [performed] at settles
  cases settles with
  | done fine changed =>
    refine ⟨fine, ?_⟩
    rw [list, changed viewed, Function.update_self, read, Step.follow]
  | failed fine kept =>
    refine ⟨fine, ?_⟩
    rw [list, kept viewed, Step.follow, list]

end Call

section Run

variable {good : σ → Prop} (atomic : Store.AtomicOn {key} {key} good)

include atomic

/-- After each step of a run, the saved commands are those at the start with the calls so far
applied to them that succeeded. -/
theorem list_after_step {store : σ} (start : good store) {calls : List Call}
    {done later : List (Step σ)} {step : Step σ}
    (run : steps store calls = done ++ step :: later) :
    list step.after = (done ++ [step]).foldl Step.follow (list store) := by
  induction calls generalizing store done with
  | nil => cases List.append_eq_nil_iff.1 run.symm |>.2
  | cons call calls ih =>
    cases performed : call.action.perform store with
    | mk outcome after =>
    obtain ⟨fine, listed⟩ := good_and_list_after_call atomic rfl rfl start performed
    -- Later steps start from the commands that the first one leaves.
    rw [steps, performed] at run
    cases done with
    | nil =>
      obtain ⟨same, -⟩ := List.cons.inj run
      rw [← same, listed]
      rfl
    | cons first done =>
      obtain ⟨same, run⟩ := List.cons.inj run
      rw [ih fine run, listed, ← same]
      rfl

end Run

theorem atomicOn_file : Store.AtomicOn {key} {key} (FileStore.Presents {key}) :=
  FileStore.atomicOn (by rintro _ rfl _ rfl -; rfl)

def echoed (text : String) : Synthesis :=
  { command := "echo " ++ text, valid := true, errors := [], createdAt := .epoch,
    templateId := "echo" }

/-- A store on whose disk there is room for two writes. -/
def smallDisk (store : σ) : FaultyStore σ where
  store := store
  faults := { budget := some 2 }

def threeCalls : List Call :=
  [.append 5 (echoed "é"), .append 1 (echoed "\"\n"), .append 5 (echoed "")]

/-- Of three commands the last finds the disk full, and the first is beyond the capacity of the
second. That is so in memory, and in a directory that has to be made. -/
theorem list_after_smallDisk :
    (∃ done step, steps (smallDisk MemoryStore.empty) threeCalls = done ++ [step] ∧
      list step.after = (done ++ [step]).foldl Step.follow (list (smallDisk MemoryStore.empty)) ∧
      list step.after = [echoed "\"\n"]) ∧
    ∃ done step, steps (smallDisk FileStore.unmade) threeCalls = done ++ [step] ∧
      list step.after = (done ++ [step]).foldl Step.follow (list (smallDisk FileStore.unmade)) ∧
      list step.after = [echoed "\"\n"] := by
  constructor
  · have run : steps (smallDisk MemoryStore.empty) threeCalls = [_, _] ++ [_] := rfl
    have atomic := FaultyStore.atomicOn (MemoryStore.atomic.on {key} {key})
    have listed := list_after_step atomic ⟨rfl, trivial⟩ run
    refine ⟨_, _, run, listed, listed.trans ?_⟩
    decide +kernel
  · have run : steps (smallDisk FileStore.unmade) threeCalls = [_, _] ++ [_] := rfl
    have start : FaultyStore.Reliable (FileStore.Presents {key}) (smallDisk FileStore.unmade) :=
      ⟨rfl, FileStore.fresh_unmade.presents {key}⟩
    have listed := list_after_step (FaultyStore.atomicOn atomicOn_file) start run
    refine ⟨_, _, run, listed, listed.trans ?_⟩
    decide +kernel

end CommandSynthesis.History
