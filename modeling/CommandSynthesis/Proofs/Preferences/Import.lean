import CommandSynthesis.Preferences.Documents
import CommandSynthesis.Proofs.Preferences.Reach

set_option autoImplicit false

/-!
# Imports that are refused

Where calls on the two documents are atomic, as in memory and in files, an import is all or nothing,
but for one way to fail: the layout of the system cannot be written after the preferences were, and
the preferences cannot be put back either. Then the new preferences stay beside the old layout.
-/

namespace CommandSynthesis.Preferences

open StoredDocument

variable {σ α : Type} [Store σ] [StoredDocument α]

/-- The texts after the document was written, if there is one to write. -/
def withDocument (value : Option α) (texts : String → Option String) : String → Option String :=
  match value with
  | none => texts
  | some value => Function.update texts (key α) (some (StoredDocument.encode value).compact)

theorem eqOn_withDocument {views : Set String} {texts others : String → Option String}
    (same : Set.EqOn texts others views) (value : Option α) :
    Set.EqOn (withDocument value texts) (withDocument value others) views := by
  cases value with
  | none => exact same
  | some value => exact Store.eqOn_update same _ _

/-- The preferences were written, then the layout of the system was refused and putting back the
preferences was refused as well. -/
structure Stranded (views : Set String) (preferences : Preferences) (config : SystemConfig)
    (store after : σ) : Prop where
  calls : ∃ written refused reason obstacle,
    (save preferences).perform store = (.ok (), written) ∧
    (save config).perform written = (.error reason, refused) ∧
    (restore (key Preferences) (Store.get? store (key Preferences))).perform refused =
      (.error obstacle, after)
  texts : Set.EqOn (Store.get? after) (withDocument (some preferences) (Store.get? store)) views

/-- How writing both documents ends: with both written or with no text in view changed, or with the
preferences stranded. -/
inductive Lands (views : Set String) (good : σ → Prop) (preferences : Option Preferences)
    (config : Option SystemConfig) (store : σ) : Except Failure Unit × σ → Prop where
  | settled {result : Except Failure Unit × σ} :
      Store.SettlesOn views good store
        (withDocument config (withDocument preferences (Store.get? store))) result →
      Lands views good preferences config store result
  | stranded {newPreferences : Preferences} {newConfig : SystemConfig} {reason : Failure}
      {after : σ} : preferences = some newPreferences → config = some newConfig →
      Stranded views newPreferences newConfig store after →
      Lands views good preferences config store (.error reason, after)

section Atomic

variable {views : Set String} {good : σ → Prop}
  (atomic : Store.AtomicOn documentKeys views good) {store : σ} (start : good store)

include atomic start

theorem settles_saveSome (document : key α ∈ documentKeys) (value : Option α) :
    Store.SettlesOn views good store (withDocument value (Store.get? store))
      ((saveSome value).perform store) := by
  cases value with
  | none => exact .done start fun _ _ => rfl
  | some value => exact atomic.set start (key α) document (StoredDocument.encode value).compact

theorem settles_restore {key : String} (document : key ∈ documentKeys)
    (previous : Option String) :
    Store.SettlesOn views good store (Function.update (Store.get? store) key previous)
      ((restore key previous).perform store) := by
  cases previous with
  | none => exact atomic.remove start key document
  | some text => exact atomic.set start key document text

omit start in
/-- After the layout of the system was refused, the preferences are put back or stranded. -/
theorem lands_restore {preferences : Preferences} {config : SystemConfig} {written refused : σ}
    {reason : Failure} (first : (saveSome (some preferences)).perform store = (.ok (), written))
    (changed : Set.EqOn (Store.get? written)
      (withDocument (some preferences) (Store.get? store)) views)
    (second : (saveSome (some config)).perform written = (.error reason, refused))
    (fine : good refused) (kept : Set.EqOn (Store.get? refused) (Store.get? written) views) :
    Lands views good (some preferences) (some config) store
      ((do
        let _ ← Action.attempt (restore (key Preferences) (Store.get? store (key Preferences)))
        throw reason : Action σ Unit).perform refused) := by
  have left := kept.trans changed
  have settles := settles_restore atomic fine preferences_mem (Store.get? store (key Preferences))
  rw [Action.perform_bind_ok (Action.perform_attempt _ _), Action.perform_throw]
  generalize third : (restore (key Preferences) (Store.get? store (key Preferences))).perform
    refused = result at settles
  cases settles with
  | done fine restored =>
    -- Since the second write changed nothing, the old text undoes the first.
    have undone := Store.eqOn_update left (key Preferences) (Store.get? store (key Preferences))
    rw [withDocument, Function.update_idem, Function.update_eq_self] at undone
    exact .settled (.failed fine (restored.trans undone))
  | failed _ kept' =>
    exact .stranded rfl rfl
      ⟨⟨written, refused, reason, _, first, second, third⟩, kept'.trans left⟩

theorem lands_saveBoth (preferences : Option Preferences) (config : Option SystemConfig) :
    Lands views good preferences config store
      ((saveBoth preferences config).perform store) := by
  unfold saveBoth
  rw [Action.perform_bind_ok (Action.perform_get? _ _)]
  have settles := settles_saveSome atomic start preferences_mem preferences
  generalize first : (saveSome preferences).perform store = result at settles
  cases settles with
  | failed fine kept =>
    rw [Action.perform_bind_error first]
    exact .settled (.failed fine kept)
  | @done written fine changed =>
    rw [Action.perform_bind_ok first, Action.perform_bind_ok (Action.perform_attempt _ _)]
    have settles := settles_saveSome atomic fine config_mem config
    generalize second : (saveSome config).perform written = result at settles
    cases settles with
    | done fine both => exact .settled (.done fine (both.trans (eqOn_withDocument changed config)))
    | failed fine kept =>
      -- Only preferences that were written are put back.
      cases preferences with
      | none => exact .settled (.failed fine (kept.trans changed))
      | some newPreferences =>
        cases config with
        | none => cases second
        | some newConfig => exact lands_restore atomic first changed second fine kept

end Atomic

section Steps

variable {store : σ} {value : Json}

theorem perform_importValue {preferences : Option Preferences} {config : Option SystemConfig}
    (first : importSection (load store) (value.get? "preferences") = .ok preferences)
    (second : importSection (load store) (value.get? "systemConfig") = .ok config) :
    (importValue value).perform store = (saveBoth preferences config).perform store := by
  unfold importValue
  rw [Action.perform_bind_ok (Action.perform_get? _ _),
    Action.perform_bind_ok (Action.perform_get? _ _)]
  simp only [load] at first second
  simp only [first, second]

theorem importValue_refused
    (misfit : ¬ ∃ (preferences : Option Preferences) (config : Option SystemConfig),
      importSection (load store) (value.get? "preferences") = .ok preferences ∧
      importSection (load store) (value.get? "systemConfig") = .ok config) :
    ∃ failure, (importValue value).perform store = (.error failure, store) := by
  unfold importValue
  rw [Action.perform_bind_ok (Action.perform_get? _ _),
    Action.perform_bind_ok (Action.perform_get? _ _)]
  simp only [load] at misfit
  dsimp only
  cases first : importSection (ofText (Store.get? store (key Preferences)) : Preferences)
      (value.get? "preferences") with
  | error failure => exact ⟨failure, rfl⟩
  | ok preferences =>
    cases second : importSection (ofText (Store.get? store (key SystemConfig)) : SystemConfig)
        (value.get? "systemConfig") with
    | error failure => exact ⟨failure, rfl⟩
    | ok config => exact absurd ⟨preferences, config, first, second⟩ misfit

theorem perform_importText {text : String} (parsed : Json.parse text = .ok value) :
    (importText text).perform store =
      (.ok ((importValue value).perform store).1.isOk, ((importValue value).perform store).2) := by
  unfold importText
  rw [parsed]
  dsimp only
  rw [Action.perform_bind_ok (Action.perform_attempt _ _)]
  generalize (importValue value).perform store = result
  obtain ⟨outcome, after⟩ := result
  cases outcome <;> rfl

end Steps

/-- The preferences that an import of the text was to write together with a layout are stranded. -/
def LandsHalfway (views : Set String) (text : String) (store after : σ) : Prop :=
  ∃ value preferences config, Json.parse text = .ok value ∧
    importSection (load store) (value.get? "preferences") = .ok (some preferences) ∧
    importSection (load store) (value.get? "systemConfig") = .ok (some config) ∧
    Stranded views preferences config store after

/-- A refused import changes no text in view, unless it strands the preferences that it was to
write. The documents and any other texts can be in view, in files as well as in memory. -/
theorem importText_refused {views : Set String} {good : σ → Prop}
    (atomic : Store.AtomicOn documentKeys views good) {store after : σ}
    (start : good store) {text : String}
    (refused : (importText text).perform store = (.ok false, after)) :
    Set.EqOn (Store.get? after) (Store.get? store) views ∨
      LandsHalfway views text store after := by
  cases parsed : Json.parse text with
  | error fault =>
    unfold importText at refused
    rw [parsed] at refused
    cases refused
    exact .inl fun _ _ => rfl
  | ok value =>
    rw [perform_importText parsed] at refused
    by_cases fits : ∃ (preferences : Option Preferences) (config : Option SystemConfig),
        importSection (load store) (value.get? "preferences") = .ok preferences ∧
        importSection (load store) (value.get? "systemConfig") = .ok config
    · obtain ⟨preferences, config, first, second⟩ := fits
      rw [perform_importValue first second] at refused
      have lands := lands_saveBoth atomic start preferences config
      generalize (saveBoth preferences config).perform store = result at lands refused
      cases lands with
      | settled settles =>
        cases settles with
        | done => cases refused
        | failed _ kept =>
          cases refused
          exact .inl kept
      | stranded there there' stranded =>
        cases refused
        subst there there'
        exact .inr ⟨value, _, _, parsed, first, second, stranded⟩
    · obtain ⟨failure, performed⟩ := importValue_refused fits
      rw [performed] at refused
      cases refused
      exact .inl fun _ _ => rfl

theorem ok_of_toOption {α : Type} {outcome : Except Failure α} {value : α}
    (found : outcome.toOption = some value) : outcome = .ok value := by
  cases outcome with
  | error => cases found
  | ok => cases found; rfl

/-- An import with both sections. -/
def darkSections : Json :=
  .object [("preferences", .object [("theme", .string "dark")]), ("systemConfig", .object [])]

/-- A store with preferences, in front of which operations fail. -/
def storeWithFaults (faults : Faults) : FaultyStore MemoryStore where
  store := ⟨[(key Preferences, (Json.object []).compact)]⟩
  faults := faults

def lockedLayout : FaultyStore MemoryStore :=
  storeWithFaults { set := [key SystemConfig] }

/-- Preferences in a file, and a directory in the place of the file of the layout. -/
def blockedLayout : FileStore where
  directory := "/data"
  tree :=
    { entries := [(⟨"/data"⟩, .directory),
        (⟨"/data/cmdsmith-preferences.json"⟩, .file (.text (Json.object []).compact)),
        (⟨"/data/cmdsmith-system-config.json"⟩, .directory)]
      workingDirectory := .root }

def fullDisk : FaultyStore MemoryStore :=
  storeWithFaults { budget := some 1 }

def importOnto (store : σ) : Except Failure Bool × σ :=
  (importText darkSections.compact).perform store

/-- When only the layout of the system cannot be written, the preferences are put back, in memory as
well as in files. -/
theorem importText_refused_locked :
    ((importOnto lockedLayout).1 = .ok false ∧
      (Store.get? (importOnto lockedLayout).2 = Store.get? lockedLayout ∨
        LandsHalfway Set.univ darkSections.compact lockedLayout (importOnto lockedLayout).2)) ∧
    (importOnto blockedLayout).1 = .ok false ∧
      (Set.EqOn (Store.get? (importOnto blockedLayout).2) (Store.get? blockedLayout) documents ∨
        LandsHalfway documents darkSections.compact blockedLayout
          (importOnto blockedLayout).2) := by
  have refused : (importOnto lockedLayout).1 = .ok false := ok_of_toOption (by decide +kernel)
  have start : FaultyStore.Reliable (fun _ => True) lockedLayout := ⟨rfl, trivial⟩
  have atomic := FaultyStore.atomicOn (MemoryStore.atomic.on documentKeys Set.univ)
  have blocked : (importOnto blockedLayout).1 = .ok false := ok_of_toOption (by decide +kernel)
  have inView : blockedLayout.Presents documents := by
    rintro _ (rfl | rfl | rfl)
    all_goals
      unfold FileStore.InView
      decide +kernel
  have atomic' := FileStore.atomicOn_documents documents
  refine ⟨⟨refused, ?_⟩, blocked, ?_⟩
  · refine (importText_refused atomic start (Prod.ext refused rfl)).imp_left fun same => ?_
    exact (Set.eqOn_univ _ _).mp same
  · exact importText_refused (atomic'.mono documentKeys_subset (Set.Subset.refl _)) inView
      (Prod.ext blocked rfl)

/-- When the disk is full after one write, an import that is refused has changed the preferences. -/
theorem importText_fullDisk :
    FaultyStore.Reliable (fun _ => True) fullDisk ∧ (importOnto fullDisk).1 = .ok false ∧
      Store.get? (importOnto fullDisk).2 (key Preferences) ≠
        Store.get? fullDisk (key Preferences) := by
  have stranded : (importOnto fullDisk).1.toOption = some false ∧
      Store.get? (importOnto fullDisk).2 (key Preferences) ≠
        Store.get? fullDisk (key Preferences) := by
    decide +kernel
  exact ⟨⟨rfl, trivial⟩, ok_of_toOption stranded.1, stranded.2⟩

end CommandSynthesis.Preferences
