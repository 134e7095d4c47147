import CommandSynthesis.Proofs.History.Run

set_option autoImplicit false

/-!
# Room in a history

Only adding a command drops others. So a history can list more commands than it has room for, when
the last of them came through a history with more room, or were there before any call succeeded.
-/

namespace CommandSynthesis.History

variable {σ : Type}

/-- The last call that succeeded, after a step. -/
def Step.recall (last : Option Call) (step : Step σ) : Option Call :=
  match step.outcome with
  | .ok () => some step.call
  | .error _ => last

def lastDone (steps : List (Step σ)) : Option Call :=
  steps.foldl Step.recall none

/-- The commands are those that a call leaves; or those at the start, without one. -/
def Left (start : List Synthesis) (entries : List Synthesis) : Option Call → Prop
  | none => entries = start
  | some call => ∃ previous, entries = call.apply previous

theorem Left.follow {start entries : List Synthesis} {last : Option Call}
    (left : Left start entries last) (step : Step σ) :
    Left start (step.follow entries) (step.recall last) := by
  unfold Step.follow Step.recall
  cases step.outcome with
  | ok => exact ⟨entries, rfl⟩
  | error failure => exact left

theorem Left.length_le {start entries : List Synthesis} {last : Option Call}
    (left : Left start entries last) (capacity : UInt64) :
    entries.length ≤ capacity.toNat ∨
      (∃ larger entry, last = some (.append larger entry) ∧ capacity < larger ∧
        entries.length ≤ larger.toNat) ∨
      last = none ∧ entries = start := by
  cases last with
  | none => exact .inr (.inr ⟨rfl, left⟩)
  | some call =>
    obtain ⟨previous, rfl⟩ := left
    cases call with
    | clear => exact .inl (Nat.zero_le _)
    | append bound entry =>
      have bounded : (Call.apply previous (.append bound entry)).length ≤ bound.toNat :=
        List.length_take_le _ _
      by_cases larger : capacity < bound
      · exact .inr (.inl ⟨bound, entry, rfl, larger, bounded⟩)
      · exact .inl (bounded.trans (UInt64.le_iff_toNat_le.mp (UInt64.not_lt.mp larger)))

section Run

variable [Store σ] {good : σ → Prop} (atomic : Store.AtomicOn {key} {key} good)

include atomic

theorem left_after_step {store : σ} (fine : good store) {start : List Synthesis}
    {last : Option Call} (left : Left start (list store) last) {calls : List Call}
    {done later : List (Step σ)} {step : Step σ}
    (run : steps store calls = done ++ step :: later) :
    Left start (list step.after) ((done ++ [step]).foldl Step.recall last) := by
  induction calls generalizing store last done with
  | nil => cases List.append_eq_nil_iff.mp run.symm |>.2
  | cons call calls ih =>
    cases performed : call.action.perform store with
    | mk outcome after =>
    obtain ⟨settled, listed⟩ := good_and_list_after_call atomic rfl rfl fine performed
    have leaves := left.follow ⟨call, outcome, after⟩
    rw [← listed] at leaves
    rw [steps, performed] at run
    cases done with
    | nil =>
      obtain ⟨rfl, -⟩ := List.cons.inj run
      exact leaves
    | cons first done =>
      obtain ⟨rfl, rest⟩ := List.cons.inj run
      exact ih settled leaves rest

/-- At any point of a run a history lists no more commands than it has room for, unless the last
call that succeeded added one through a history with more room, or none has succeeded yet. -/
theorem length_list_after_step {store : σ} (fine : good store) {calls : List Call}
    {done later : List (Step σ)} {step : Step σ}
    (run : steps store calls = done ++ step :: later) (capacity : UInt64) :
    (list step.after).length ≤ capacity.toNat ∨
      (∃ larger entry, lastDone (done ++ [step]) = some (.append larger entry) ∧
        capacity < larger ∧ (list step.after).length ≤ larger.toNat) ∨
      lastDone (done ++ [step]) = none ∧ list step.after = list store := by
  have left : Left (list store) (list step.after) (lastDone (done ++ [step])) :=
    left_after_step atomic fine (show Left _ (list store) none from rfl) run
  exact left.length_le capacity

end Run

def twoCalls : List Call :=
  [.append 2 (echoed "a"), .append 2 (echoed "b")]

theorem list_after_twoCalls [Store σ] {good : σ → Prop} (atomic : Store.AtomicOn {key} {key} good)
    {store : σ} (fine : good store) (empty : list store = []) {first second : Step σ}
    (run : steps store twoCalls = [first, second]) (done : first.outcome = .ok ())
    (secondDone : second.outcome = .ok ()) : list second.after = [echoed "b", echoed "a"] := by
  obtain ⟨rfl, rest⟩ := List.cons.inj run
  obtain ⟨rfl, -⟩ := List.cons.inj rest
  obtain ⟨settled, listed⟩ := good_and_list_after_call atomic rfl rfl fine (Prod.ext done rfl)
  obtain ⟨-, secondListed⟩ :=
    good_and_list_after_call atomic rfl rfl settled (Prod.ext secondDone rfl)
  rw [secondListed, listed, empty]
  rfl

/-- A history with room for one command lists the two that another one has saved. -/
theorem length_list_reopened :
    ∃ done step, steps MemoryStore.empty twoCalls = done ++ [step] ∧
      ¬ (list step.after).length ≤ (1 : UInt64).toNat := by
  have run : steps MemoryStore.empty twoCalls = [_] ++ [_] := rfl
  refine ⟨_, _, run, ?_⟩
  rw [list_after_twoCalls (MemoryStore.atomic.on {key} {key}) trivial rfl run rfl rfl]
  decide

/-- The two commands in a history with room for one came through one with room for two. -/
theorem length_list_after_twoCalls :
    ∃ done step, steps FileStore.unmade twoCalls = done ++ [step] ∧
      (list step.after).length = 2 ∧
      ∃ larger entry, lastDone (done ++ [step]) = some (.append larger entry) ∧ 1 < larger := by
  have run : steps FileStore.unmade twoCalls = [_] ++ [_] := rfl
  have fine := FileStore.fresh_unmade.presents {key}
  have two := congrArg List.length (list_after_twoCalls atomicOn_file fine (by decide +kernel) run
    (by decide +kernel) (by decide +kernel))
  refine ⟨_, _, run, two, ?_⟩
  rcases length_list_after_step atomicOn_file fine run 1 with
    short | ⟨larger, entry, last, more, -⟩ | ⟨-, same⟩
  · rw [two] at short
    exact absurd short (by decide)
  · exact ⟨larger, entry, last, more⟩
  · rw [same] at two
    exact absurd two (by decide +kernel)

end CommandSynthesis.History
