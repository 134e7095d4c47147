import CommandSynthesis.Proofs.Store.Atomic

set_option autoImplicit false

/-!
# Actions on some keys

What an action does is made of calls. When these are on some keys alone, it keeps all that calls on
them keep; so it changes the text of no other key. From the texts of its keys it always does the
same, whatever else is in the store.
-/

namespace CommandSynthesis

namespace Store

variable {σ : Type} [Store σ] {keys views : Set String} {good : σ → Prop} {store : σ}

/-- From a good state, all calls on some keys succeed. -/
structure Serves (keys : Set String) (good : σ → Prop) : Prop where
  set : ∀ {store}, good store → ∀ key ∈ keys, ∀ text,
    ((Store.set key text).perform store).1 = .ok ()
  remove : ∀ {store}, good store → ∀ key ∈ keys, ((Store.remove key).perform store).1 = .ok ()

theorem Serves.mono {more : Set String} (serves : Serves more good) (sub : keys ⊆ more) :
    Serves keys good where
  set fine key mem text := serves.set fine key (sub mem) text
  remove fine key mem := serves.remove fine key (sub mem)

/-- From a good state, all writes of some keys succeed and lead to good states. Of the texts in view
they change that of their key alone. -/
def WritableOn (keys views : Set String) (good : σ → Prop) : Prop :=
  ∀ store, good store → ∀ key ∈ keys, ∀ text, ∃ after, good after ∧
    (Store.set key text).perform store = (.ok (), after) ∧
    Set.EqOn (get? after) (Function.update (get? store) key (some text)) views

theorem WritableOn.mono {more : Set String} (writable : WritableOn more views good)
    (sub : keys ⊆ more) : WritableOn keys views good :=
  fun store fine key mem text => writable store fine key (sub mem) text

theorem SettlesOn.fine {texts : String → Option String} {result : Except Failure Unit × σ}
    (settles : SettlesOn views good store texts result) : good result.2 := by
  cases settles with
  | done fine _ => exact fine
  | failed fine _ => exact fine

theorem SettlesOn.imp {better : σ → Prop} {texts : String → Option String}
    {result : Except Failure Unit × σ} (settles : SettlesOn views good store texts result)
    (improves : good result.2 → better result.2) : SettlesOn views better store texts result := by
  cases settles with
  | done fine settled => exact .done (improves fine) settled
  | failed fine kept => exact .failed (improves fine) kept

theorem SettlesOn.get?_of_done {texts : String → Option String}
    {result : Except Failure Unit × σ} (settles : SettlesOn views good store texts result)
    (done : result.1 = .ok ()) {view : String} (viewed : view ∈ views) :
    get? result.2 view = texts view := by
  cases settles with
  | done _ settled => exact settled viewed
  | failed _ _ => cases done

/-- Where atomic calls succeed, some keys can be written. -/
theorem AtomicOn.writableOn (atomic : AtomicOn keys views good) (serves : Serves keys good) :
    WritableOn keys views good := by
  intro store fine key mem text
  have settles := atomic.set fine key mem text
  have done := serves.set fine key mem text
  generalize (Store.set key text).perform store = result at settles done
  cases settles with
  | done fine settled => exact ⟨_, fine, rfl, settled⟩
  | failed _ _ => cases done

/-- Two calls that succeed and give a key the same text. -/
theorem SettlesOn.agree {other : σ} {key : String} {text : Option String}
    {result otherResult : Except Failure Unit × σ}
    (settles : SettlesOn views good store (Function.update (get? store) key text) result)
    (otherSettles : SettlesOn views good other (Function.update (get? other) key text) otherResult)
    (done : result.1 = .ok ()) (otherDone : otherResult.1 = .ok ())
    (same : Set.EqOn (get? store) (get? other) views) :
    result.1 = otherResult.1 ∧ Set.EqOn (get? result.2) (get? otherResult.2) views := by
  refine ⟨done.trans otherDone.symm, fun view viewed => ?_⟩
  rw [settles.get?_of_done done viewed, otherSettles.get?_of_done otherDone viewed,
    Function.update_apply, Function.update_apply, same viewed]

/-- A call changes the text of its key alone. -/
theorem SettlesOn.others {key : String} {text : Option String} {result : Except Failure Unit × σ}
    (settles : SettlesOn views good store (Function.update (get? store) key text) result)
    {view : String} (viewed : view ∈ views) (other : view ≠ key) :
    get? result.2 view = get? store view := by
  cases settles with
  | done _ settled => rw [settled viewed, Function.update_of_ne other]
  | failed _ kept => exact kept viewed

end Store

theorem MemoryStore.serves (keys : Set String) : Store.Serves keys fun _ : MemoryStore => True where
  set _ _ _ _ := rfl
  remove _ _ _ := rfl

namespace Action

variable {σ : Type} [Store σ]

/-- The calls of an action are on some keys alone. -/
inductive Within (keys : Set String) : {α : Type} → Action σ α → Prop where
  | pure {α : Type} (value : α) : Within keys (pure value)
  | throw {α : Type} (failure : Failure) : Within keys (throw failure : Action σ α)
  | get? {key : String} : key ∈ keys → Within keys (Action.get? key)
  | set {key text : String} : key ∈ keys → Within keys (Store.set key text)
  | remove {key : String} : key ∈ keys → Within keys (Store.remove key)
  | bind {α β : Type} {action : Action σ α} {next : α → Action σ β} : Within keys action →
      (∀ value, Within keys (next value)) → Within keys (action >>= next)
  | attempt {α : Type} {action : Action σ α} : Within keys action → Within keys (attempt action)

variable {α : Type} {action : Action σ α} {keys more views : Set String} {good : σ → Prop}
  {store other : σ}

theorem Within.mono (within : Within keys action) (sub : keys ⊆ more) : Within more action := by
  induction within with
  | pure value => exact .pure value
  | throw failure => exact .throw failure
  | get? mem => exact .get? (sub mem)
  | set mem => exact .set (sub mem)
  | remove mem => exact .remove (sub mem)
  | bind _ _ first next => exact .bind first next
  | attempt _ ih => exact .attempt ih

/-- What each call on the keys keeps, an action keeps. -/
theorem Within.kept (within : Within keys action) (kept : σ → Prop)
    (set : ∀ {store}, kept store → ∀ key ∈ keys, ∀ text,
      kept ((Store.set key text).perform store).2)
    (remove : ∀ {store}, kept store → ∀ key ∈ keys, kept ((Store.remove key).perform store).2)
    (start : kept store) : kept (action.perform store).2 := by
  induction within generalizing store with
  | pure value => exact start
  | throw failure => exact start
  | get? mem => exact start
  | set mem => exact set start _ mem _
  | remove mem => exact remove start _ mem
  | @bind α β action next _ _ first second =>
    cases performed : action.perform store with
    | mk outcome after =>
    have middle := first start
    rw [performed] at middle
    cases outcome with
    | error failure =>
      rw [perform_bind_error performed]
      exact middle
    | ok value =>
      rw [perform_bind_ok performed]
      exact second value middle
  | attempt _ ih => exact ih start

theorem Within.fine (within : Within keys action) (atomic : Store.AtomicOn keys views good)
    (fine : good store) : good (action.perform store).2 :=
  within.kept good (fun fine key mem text => (atomic.set fine key mem text).fine)
    (fun fine key mem => (atomic.remove fine key mem).fine) fine

/-- The texts of other keys are as they were. -/
theorem Within.others (within : Within keys action) (atomic : Store.AtomicOn keys views good)
    (apart : ∀ view ∈ views, view ∉ keys) (fine : good store) :
    Set.EqOn (Store.get? (action.perform store).2) (Store.get? store) views := by
  have kept : good (action.perform store).2 ∧
      Set.EqOn (Store.get? (action.perform store).2) (Store.get? store) views := by
    refine within.kept (fun after => good after ∧ Set.EqOn (Store.get? after) _ views) ?_ ?_
      ⟨fine, fun _ _ => rfl⟩
    · rintro before ⟨fine, same⟩ key mem text
      have settles := atomic.set fine key mem text
      refine ⟨settles.fine, fun view viewed => ?_⟩
      exact (settles.others viewed fun chosen => apart view viewed (chosen ▸ mem)).trans
        (same viewed)
    · rintro before ⟨fine, same⟩ key mem
      have settles := atomic.remove fine key mem
      refine ⟨settles.fine, fun view viewed => ?_⟩
      exact (settles.others viewed fun chosen => apart view viewed (chosen ▸ mem)).trans
        (same viewed)
  exact kept.2

/-- In two stores that have the same texts under its keys, an action ends in the same way, with the
same texts. -/
theorem Within.agree (within : Within keys action) (atomic : Store.AtomicOn keys keys good)
    (serves : Store.Serves keys good) (fine : good store) (otherFine : good other)
    (same : Set.EqOn (Store.get? store) (Store.get? other) keys) :
    (action.perform store).1 = (action.perform other).1 ∧
      Set.EqOn (Store.get? (action.perform store).2) (Store.get? (action.perform other).2)
        keys := by
  induction within generalizing store other with
  | pure value => exact ⟨rfl, same⟩
  | throw failure => exact ⟨rfl, same⟩
  | get? mem => exact ⟨congrArg Except.ok (same mem), same⟩
  | set mem =>
    exact (atomic.set fine _ mem _).agree (atomic.set otherFine _ mem _)
      (serves.set fine _ mem _) (serves.set otherFine _ mem _) same
  | remove mem =>
    exact (atomic.remove fine _ mem).agree (atomic.remove otherFine _ mem)
      (serves.remove fine _ mem) (serves.remove otherFine _ mem) same
  | @bind α β action next within _ first second =>
    obtain ⟨ended, same⟩ := first fine otherFine same
    have settled := within.fine atomic fine
    have otherSettled := within.fine atomic otherFine
    cases performed : action.perform store with
    | mk outcome after =>
    cases otherPerformed : action.perform other with
    | mk otherOutcome otherAfter =>
    rw [performed, otherPerformed] at ended same
    rw [performed] at settled
    rw [otherPerformed] at otherSettled
    -- Both go on from the same value, or not at all.
    obtain rfl : outcome = otherOutcome := ended
    cases outcome with
    | error failure =>
      rw [perform_bind_error performed, perform_bind_error otherPerformed]
      exact ⟨rfl, same⟩
    | ok value =>
      rw [perform_bind_ok performed, perform_bind_ok otherPerformed]
      exact second value settled otherSettled same
  | attempt _ ih =>
    obtain ⟨ended, same⟩ := ih fine otherFine same
    exact ⟨congrArg Except.ok ended, same⟩

end Action

end CommandSynthesis
