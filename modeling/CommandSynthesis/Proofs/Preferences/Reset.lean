import CommandSynthesis.Proofs.Preferences.Import

set_option autoImplicit false

/-!
# Resets

Over atomic calls a reset is all or nothing, but for one way to fail: the layout of the system
cannot be removed after the preferences were. An import puts the preferences back then; a reset does
not.
-/

namespace CommandSynthesis.Preferences

open StoredDocument

variable {σ : Type} [Store σ]

theorem load_eq_default {α : Type} [StoredDocument α] {store : σ}
    (absent : Store.get? store (key α) = none) : (load store : α) = StoredDocument.default := by
  rw [load, absent]
  rfl

def withoutPreferences (texts : String → Option String) : String → Option String :=
  Function.update texts (key Preferences) none

def withoutDocuments (texts : String → Option String) : String → Option String :=
  Function.update (withoutPreferences texts) (key SystemConfig) none

theorem preferences_ne_config : key Preferences ≠ key SystemConfig := by decide

theorem withoutDocuments_of_mem {document : String} (mem : document ∈ documentKeys)
    (texts : String → Option String) : withoutDocuments texts document = none := by
  rcases mem with rfl | rfl
  · rw [withoutDocuments, Function.update_of_ne preferences_ne_config]
    exact Function.update_self _ _ _
  · exact Function.update_self _ _ _

theorem withoutPreferences_of_notMem {view : String} (other : view ∉ documentKeys)
    (texts : String → Option String) : withoutPreferences texts view = texts view :=
  Function.update_of_ne (ne_of_mem_of_not_mem preferences_mem other).symm _ _

theorem withoutDocuments_of_notMem {view : String} (other : view ∉ documentKeys)
    (texts : String → Option String) : withoutDocuments texts view = texts view :=
  (Function.update_of_ne (ne_of_mem_of_not_mem config_mem other).symm _ _).trans
    (withoutPreferences_of_notMem other texts)

/-- The preferences can be removed, and the layout of the system cannot be removed after that. -/
def Splits (store : σ) : Prop :=
  ∃ removed reason refused, (Store.remove (key Preferences)).perform store = (.ok (), removed) ∧
    (Store.remove (key SystemConfig)).perform removed = (.error reason, refused)

/-- How a reset ends: with both documents gone or with no text in view changed, or with the
preferences gone alone. -/
inductive Resets (views : Set String) (good : σ → Prop) (store : σ) :
    Except Failure Unit × σ → Prop where
  | whole {result : Except Failure Unit × σ} : ¬ Splits store →
      Store.SettlesOn views good store (withoutDocuments (Store.get? store)) result →
      Resets views good store result
  | split {reason : Failure} {after : σ} : Splits store →
      Set.EqOn (Store.get? after) (withoutPreferences (Store.get? store)) views →
      Resets views good store (.error reason, after)

variable {views : Set String} {good : σ → Prop}

theorem eqOn_documentKeys_iff {texts others : String → Option String} :
    Set.EqOn texts others documentKeys ↔
      texts (key Preferences) = others (key Preferences) ∧
        texts (key SystemConfig) = others (key SystemConfig) := by
  constructor
  · intro same
    exact ⟨same preferences_mem, same config_mem⟩
  · intro both document mem
    rcases mem with rfl | rfl
    · exact both.1
    · exact both.2

theorem resets_reset (atomic : Store.AtomicOn documentKeys views good) {store : σ}
    (start : good store) : Resets views good store (reset.perform store) := by
  have settles := atomic.remove start (key Preferences) preferences_mem
  unfold reset
  generalize first : (Store.remove (key Preferences)).perform store = result at settles
  cases settles with
  | failed fine kept =>
    rw [Action.perform_bind_error first]
    refine .whole ?_ (.failed fine kept)
    intro splits
    obtain ⟨removed, reason, refused, done, -⟩ := splits
    rw [first] at done
    cases done
  | @done removed fine changed =>
    rw [Action.perform_bind_ok first]
    have settles := atomic.remove fine (key SystemConfig) config_mem
    generalize second : (Store.remove (key SystemConfig)).perform removed = result at settles
    cases settles with
    | done fine both =>
      refine .whole ?_ (.done fine (both.trans (Store.eqOn_update changed _ none)))
      intro splits
      obtain ⟨other, reason, refused, done, failed⟩ := splits
      rw [first] at done
      cases done
      rw [second] at failed
      cases failed
    | failed fine kept =>
      exact .split ⟨_, _, _, first, second⟩ (kept.trans changed)

/-- A reset leaves neither document, so both are as by default, or it fails and leaves the layout of
the system. When it fails it leaves the preferences, too, unless there were some and the layout
could not be removed after them. It changes no other text in view. -/
theorem perform_reset (atomic : Store.AtomicOn documentKeys views good)
    (seen : documentKeys ⊆ views) {store : σ} (start : good store) :
    ((∃ after, reset.perform store = (.ok (), after) ∧
        (∀ document ∈ documentKeys, Store.get? after document = none) ∧
        load after = ({} : Preferences) ∧ load after = ({} : SystemConfig)) ∨
      ∃ failure after, reset.perform store = (.error failure, after) ∧
        Store.get? after (key SystemConfig) = Store.get? store (key SystemConfig) ∧
        (Set.EqOn (Store.get? after) (Store.get? store) documentKeys ↔
          ¬ (Splits store ∧ Store.get? store (key Preferences) ≠ none))) ∧
      ∀ view ∈ views, view ∉ documentKeys →
        Store.get? (reset.perform store).2 view = Store.get? store view := by
  have resets := resets_reset atomic start
  generalize reset.perform store = result at resets
  cases resets with
  | whole unsplit settles =>
    cases settles with
    | @done after _ gone =>
      have absent : ∀ document ∈ documentKeys, Store.get? after document = none := by
        intro document mem
        rw [gone (seen mem), withoutDocuments_of_mem mem]
      refine ⟨.inl ⟨after, rfl, absent, load_eq_default (absent _ preferences_mem),
        load_eq_default (absent _ config_mem)⟩, fun view viewed other => ?_⟩
      rw [gone viewed, withoutDocuments_of_notMem other]
    | failed _ kept =>
      refine ⟨.inr ⟨_, _, rfl, kept (seen config_mem), ?_⟩, fun view viewed _ => kept viewed⟩
      exact iff_of_true (fun view mem => kept (seen mem)) fun split => unsplit split.1
  | @split _ after splits gone =>
    have layout : Store.get? after (key SystemConfig) = Store.get? store (key SystemConfig) := by
      rw [gone (seen config_mem), withoutPreferences,
        Function.update_of_ne preferences_ne_config.symm]
    have removed : Store.get? after (key Preferences) = none := by
      rw [gone (seen preferences_mem)]
      exact Function.update_self _ _ _
    refine ⟨.inr ⟨_, after, rfl, layout, ?_⟩, fun view viewed other => ?_⟩
    · rw [eqOn_documentKeys_iff, removed, layout]
      simp [splits, eq_comm]
    · rw [gone viewed, withoutPreferences_of_notMem other]

/-- A store whose layout of the system cannot be removed. -/
def pinnedLayout : FaultyStore MemoryStore :=
  storeWithFaults { remove := [key SystemConfig] }

/-- When nothing is in the way of a reset, both documents are gone after it. -/
theorem perform_reset_faultless :
    ∃ after, reset.perform (storeWithFaults {}) = (.ok (), after) ∧
      load after = ({} : Preferences) ∧ load after = ({} : SystemConfig) := by
  have atomic := FaultyStore.atomicOn (MemoryStore.atomic.on documentKeys documentKeys)
  have start : FaultyStore.Reliable (fun _ => True) (storeWithFaults {}) := ⟨rfl, trivial⟩
  have done : (reset.perform (storeWithFaults {})).1.toOption = some () := by decide +kernel
  obtain ⟨⟨after, performed, -, preferences, layout⟩ | ⟨failure, after, failed, -⟩, -⟩ :=
    perform_reset atomic (Set.Subset.refl _) start
  · exact ⟨after, performed, preferences, layout⟩
  · rw [failed] at done
    cases done

/-- A reset that is refused has removed the preferences when only the layout of the system cannot be
removed. -/
theorem reset_pinned :
    FaultyStore.Reliable (fun _ => True) pinnedLayout ∧
      (reset.perform pinnedLayout).1 = .error (.store "cannot remove cmdsmith-system-config") ∧
      Store.get? pinnedLayout (key Preferences) = some "{}" ∧
      Store.get? (reset.perform pinnedLayout).2 (key Preferences) = none := by
  refine ⟨⟨rfl, trivial⟩, rfl, ?_⟩
  decide +kernel

end CommandSynthesis.Preferences
