import CommandSynthesis.Store.Faulty
import CommandSynthesis.Store.Memory
import Mathlib.Data.Set.Function
import Mathlib.Logic.Function.Basic

set_option autoImplicit false

/-!
# Atomic calls

A call of a store is atomic when it does all that it says or, if it fails, changes no text. Which
calls fail is left open, so that what holds for atomic calls holds for every pattern of failures.
Stores in memory have atomic calls, and so has a store in front of which writes and removals fail
when the one behind has. Stores in files have them on some keys, as far as some texts are in view.
-/

namespace CommandSynthesis

/-! ## Steps of a computation that may fail -/

section Bind

variable {ε σ α β : Type} {first : ExceptT ε (StateM σ) α} {before after : σ}

theorem run_bind_ok {value : α}
    (ran : StateT.run (ExceptT.run first) before = (.ok value, after))
    (next : α → ExceptT ε (StateM σ) β) :
    StateT.run (ExceptT.run (first >>= next)) before =
      StateT.run (ExceptT.run (next value)) after := by
  simp only [ExceptT.run_bind, StateT.run_bind, ran]
  rfl

theorem run_bind_error {failure : ε}
    (ran : StateT.run (ExceptT.run first) before = (.error failure, after))
    (next : α → ExceptT ε (StateM σ) β) :
    StateT.run (ExceptT.run (first >>= next)) before = (.error failure, after) := by
  simp only [ExceptT.run_bind, StateT.run_bind, ran]
  rfl

end Bind

namespace Action

section Steps

variable {σ α β : Type}

theorem perform_throw (failure : Failure) (store : σ) :
    (throw failure : Action σ α).perform store = (.error failure, store) := rfl

theorem perform_getThe (store : σ) :
    (getThe σ : Action σ σ).perform store = (.ok store, store) := rfl

theorem perform_get? [Store σ] (key : String) (store : σ) :
    (Action.get? key).perform store = (.ok (Store.get? store key), store) := rfl

theorem perform_attempt (action : Action σ α) (store : σ) :
    (attempt action).perform store = (.ok (action.perform store).1, (action.perform store).2) := rfl

theorem perform_bind_ok {action : Action σ α} {store after : σ} {value : α}
    (performed : action.perform store = (.ok value, after)) (next : α → Action σ β) :
    (action >>= next).perform store = (next value).perform after :=
  run_bind_ok performed next

theorem perform_bind_error {action : Action σ α} {store after : σ} {failure : Failure}
    (performed : action.perform store = (.error failure, after)) (next : α → Action σ β) :
    (action >>= next).perform store = (.error failure, after) :=
  run_bind_error performed next

end Steps

end Action

namespace Store

variable {σ : Type} [Store σ]

/-- How a call ends that is to lead to the given texts of the keys in view. -/
inductive SettlesOn (views : Set String) (good : σ → Prop) (store : σ)
    (texts : String → Option String) : Except Failure Unit × σ → Prop where
  | done {after : σ} : good after → Set.EqOn (get? after) texts views →
      SettlesOn views good store texts (.ok (), after)
  | failed {failure : Failure} {after : σ} : good after →
      Set.EqOn (get? after) (get? store) views →
      SettlesOn views good store texts (.error failure, after)

/-- From a good state, calls on some keys lead to good states. Of the texts in view, those that fail
change none, and the others that of their key. -/
structure AtomicOn (keys views : Set String) (good : σ → Prop) : Prop where
  set : ∀ {store}, good store → ∀ key ∈ keys, ∀ text,
    SettlesOn views good store (Function.update (get? store) key (some text))
      ((Store.set key text).perform store)
  remove : ∀ {store}, good store → ∀ key ∈ keys,
    SettlesOn views good store (Function.update (get? store) key none)
      ((Store.remove key).perform store)

/-- From a good state, calls lead to good states, those that fail change no text, and the others
change the text of their key and no other. -/
def Atomic (good : σ → Prop) : Prop :=
  AtomicOn Set.univ Set.univ good

variable {keys more views wide : Set String} {good : σ → Prop} {store : σ}

theorem SettlesOn.mono {texts : String → Option String} {result : Except Failure Unit × σ}
    (settles : SettlesOn wide good store texts result) (narrow : views ⊆ wide) :
    SettlesOn views good store texts result := by
  cases settles with
  | done fine settled => exact .done fine (settled.mono narrow)
  | failed fine kept => exact .failed fine (kept.mono narrow)

theorem AtomicOn.mono (atomic : AtomicOn more wide good) (sub : keys ⊆ more)
    (narrow : views ⊆ wide) : AtomicOn keys views good where
  set fine key mem text := (atomic.set fine key (sub mem) text).mono narrow
  remove fine key mem := (atomic.remove fine key (sub mem)).mono narrow

theorem Atomic.on (atomic : Atomic good) (keys views : Set String) :
    AtomicOn keys views good :=
  atomic.mono (Set.subset_univ keys) (Set.subset_univ views)

theorem eqOn_update {texts others : String → Option String} (same : Set.EqOn texts others views)
    (key : String) (text : Option String) :
    Set.EqOn (Function.update texts key text) (Function.update others key text) views := by
  intro view viewed
  rw [Function.update_apply, Function.update_apply, same viewed]

end Store

theorem MemoryStore.atomic : Store.Atomic fun _ : MemoryStore => True where
  set {store} _ key _ text := by
    refine .done trivial fun other _ => ?_
    rw [Function.update_apply]
    exact get?_insert store key text other
  remove {store} _ key _ := by
    refine .done trivial fun other _ => ?_
    rw [Function.update_apply]
    exact get?_erase store key other

namespace FaultyStore

variable {σ : Type}

theorem perform_inner (action : Action σ Unit) (faulty : FaultyStore σ) :
    (inner action).perform faulty =
      ((action.perform faulty.store).1,
        { faulty with store := (action.perform faulty.store).2 }) := by
  unfold inner
  rw [Action.perform_bind_ok (Action.perform_getThe faulty)]
  cases performed : action.perform faulty.store with
  | mk outcome after => cases outcome <;> rfl

variable [Store σ]

/-- A write that is not refused in front is made behind, and counts when it succeeds there. -/
theorem perform_set {key text : String} {faulty : FaultyStore σ}
    (possible : ¬ faulty.faults.set.contains key = true) (room : faulty.faults.budget ≠ some 0) :
    (set key text).perform faulty =
      (inner (Store.set key text) >>= fun _ => spend).perform faulty := by
  unfold set
  rw [Action.perform_bind_ok (Action.perform_getThe faulty), if_neg possible, if_neg room]

theorem perform_remove {key : String} {faulty : FaultyStore σ}
    (possible : ¬ faulty.faults.remove.contains key = true) :
    (remove key).perform faulty = (inner (Store.remove key)).perform faulty := by
  unfold remove
  rw [Action.perform_bind_ok (Action.perform_getThe faulty), if_neg possible]

/-- No read fails, and the store behind is in a good state. -/
structure Reliable (good : σ → Prop) (faulty : FaultyStore σ) : Prop where
  reads : faulty.faults.get = []
  behind : good faulty.store

variable {keys views : Set String} {good : σ → Prop} {faulty : FaultyStore σ}

theorem Reliable.get? (reliable : Reliable good faulty) :
    Store.get? faulty = Store.get? faulty.store := by
  funext key
  change FaultyStore.get? faulty key = _
  simp [FaultyStore.get?, reliable.reads]

/-- A call that reaches the store behind settles as it does there. -/
theorem Reliable.settles_inner (reliable : Reliable good faulty) {action : Action σ Unit}
    {texts : String → Option String}
    (settles : Store.SettlesOn views good faulty.store texts (action.perform faulty.store)) :
    Store.SettlesOn views (Reliable good) faulty texts ((inner action).perform faulty) := by
  rw [perform_inner]
  generalize action.perform faulty.store = result at settles
  cases settles with
  | @done after fine settled =>
    have reliable' : Reliable good ⟨after, faulty.faults⟩ := ⟨reliable.reads, fine⟩
    refine .done reliable' ?_
    rw [reliable'.get?]
    exact settled
  | @failed failure after fine kept =>
    have reliable' : Reliable good ⟨after, faulty.faults⟩ := ⟨reliable.reads, fine⟩
    refine .failed reliable' ?_
    rw [reliable'.get?, reliable.get?]
    exact kept

theorem settles_spend {texts : String → Option String} {action : Action (FaultyStore σ) Unit}
    (settles : Store.SettlesOn views (Reliable good) faulty texts (action.perform faulty)) :
    Store.SettlesOn views (Reliable good) faulty texts
      ((action >>= fun _ => spend).perform faulty) := by
  generalize performed : action.perform faulty = result at settles
  cases settles with
  | @done after fine settled =>
    rw [Action.perform_bind_ok performed]
    exact .done ⟨fine.reads, fine.behind⟩ settled
  | failed fine kept =>
    rw [Action.perform_bind_error performed]
    exact .failed fine kept

/-- Whatever writes and removals fail in front of a store, its calls stay atomic. -/
theorem atomicOn (atomic : Store.AtomicOn keys views good) :
    Store.AtomicOn keys views (Reliable good) where
  set {faulty} start key mem text := by
    change Store.SettlesOn _ _ _ _ ((set key text).perform faulty)
    by_cases possible : faulty.faults.set.contains key = true
    · unfold set
      rw [Action.perform_bind_ok (Action.perform_getThe faulty), if_pos possible]
      exact .failed start fun _ _ => rfl
    by_cases room : faulty.faults.budget = some 0
    · unfold set
      rw [Action.perform_bind_ok (Action.perform_getThe faulty), if_neg possible, if_pos room]
      exact .failed start fun _ _ => rfl
    rw [perform_set possible room, start.get?]
    exact settles_spend (start.settles_inner (atomic.set start.behind key mem text))
  remove {faulty} start key mem := by
    change Store.SettlesOn _ _ _ _ ((remove key).perform faulty)
    by_cases possible : faulty.faults.remove.contains key = true
    · unfold remove
      rw [Action.perform_bind_ok (Action.perform_getThe faulty), if_pos possible]
      exact .failed start fun _ _ => rfl
    rw [perform_remove possible, start.get?]
    exact start.settles_inner (atomic.remove start.behind key mem)

end FaultyStore

end CommandSynthesis
