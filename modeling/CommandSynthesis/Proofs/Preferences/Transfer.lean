import CommandSynthesis.Proofs.Preferences.Import
import CommandSynthesis.Proofs.Preferences.RoundTrip

set_option autoImplicit false

/-!
# Exports and imports

What one store exports, another imports: both documents of the second become those of the first,
whatever either store held before.
-/

namespace CommandSynthesis

open Json

/-- The write succeeds and gives the key the text. -/
structure Store.Writes {σ : Type} [Store σ] (store : σ) (key text : String) (after : σ) : Prop where
  performed : (Store.set key text).perform store = (.ok (), after)
  texts : Store.get? after = Function.update (Store.get? store) key (some text)

theorem MemoryStore.writes (store : MemoryStore) (key text : String) :
    Store.Writes store key text (store.insert key text) := by
  refine ⟨rfl, funext fun other => ?_⟩
  rw [Function.update_apply]
  exact get?_insert store key text other

namespace Preferences

open StoredDocument

variable {σ τ : Type} [Store σ] [Store τ]

theorem parse_exportValue (preferences : Preferences) (config : SystemConfig) :
    Json.parse (exportValue preferences config).pretty =
      .ok (exportValue preferences config).sorted := by
  have integral : IsIntegral (exportValue preferences config) :=
    ⟨IsFaithful.integral preferences, IsFaithful.integral config, trivial⟩
  have shallow : (exportValue preferences config).nesting ≤ 3 := by
    have first : nesting preferences.encode ≤ 2 := IsFaithful.shallow preferences
    have second : nesting config.encode ≤ 2 := IsFaithful.shallow config
    simp only [exportValue, nesting, nestingMembers]
    omega
  exact Json.parse_of_spells integral (Json.spells_pretty _) (Nat.le_trans shallow (by decide))

theorem get?_exportValue (preferences : Preferences) (config : SystemConfig) :
    (exportValue preferences config).sorted.get? "preferences" = some preferences.encode.sorted ∧
      (exportValue preferences config).sorted.get? "systemConfig" = some config.encode.sorted := by
  have distinct : (keys [("preferences", preferences.encode),
      ("systemConfig", config.encode)]).Nodup := by simp [keys]
  simp only [exportValue, Json.get?, sorted, members, lookup?_sortedMembers distinct]
  exact ⟨rfl, rfl⟩

theorem importSection_object {α : Type} [StoredDocument α] (current : α) {patch : Json}
    (object : patch.isObject = true) :
    importSection current (some patch) = (patched current patch).map some := by
  cases patch with
  | object members => rfl
  | _ => cases object

theorem importSection_encode {α : Type} [StoredDocument α] [IsFaithful α] (current value : α) :
    importSection current (some (StoredDocument.encode value).sorted) = .ok (some value) := by
  have object : (StoredDocument.encode value).sorted.isObject = true := by
    rw [isObject_sorted, IsFaithful.object]
  rw [importSection_object current object, patched_encode]
  rfl

theorem perform_saveBoth_ok {preferences : Option Preferences} {config : Option SystemConfig}
    {store middle after : τ} (first : (saveSome preferences).perform store = (.ok (), middle))
    (second : (saveSome config).perform middle = (.ok (), after)) :
    (saveBoth preferences config).perform store = (.ok (), after) := by
  unfold saveBoth
  rw [Action.perform_bind_ok (Action.perform_get? _ _), Action.perform_bind_ok first,
    Action.perform_bind_ok (Action.perform_attempt _ _), second]
  rfl

theorem perform_saveBoth {store middle after : τ} {preferences : Preferences}
    {config : SystemConfig}
    (first : Store.Writes store (key Preferences) (StoredDocument.encode preferences).compact
      middle)
    (second : Store.Writes middle (key SystemConfig) (StoredDocument.encode config).compact after) :
    (saveBoth (some preferences) (some config)).perform store = (.ok (), after) :=
  perform_saveBoth_ok first.performed second.performed

/-- An import of what a store exports succeeds when its two writes do, and both documents, and so
the export, are then those of that store; in the store itself neither changes. -/
theorem importText_exportText (source : σ) {store middle after : τ}
    (first : Store.Writes store (key Preferences)
      (StoredDocument.encode (load source : Preferences)).compact middle)
    (second : Store.Writes middle (key SystemConfig)
      (StoredDocument.encode (load source : SystemConfig)).compact after) :
    (importText (exportText source)).perform store = (.ok true, after) ∧
      (load after : Preferences) = load source ∧
      (load after : SystemConfig) = load source ∧
      exportText after = exportText source := by
  have parsed := parse_exportValue (load source) (load source)
  obtain ⟨preferencesFound, configFound⟩ := get?_exportValue (load source) (load source)
  have preferences : (load after : Preferences) = load source := by
    have other : key Preferences ≠ key SystemConfig := by decide
    rw [load, second.texts, Function.update_of_ne other, first.texts, Function.update_self,
      ofText_encode]
  have config : (load after : SystemConfig) = load source := by
    rw [load, second.texts, Function.update_self, ofText_encode]
  have exported : exportText after = exportText source := by
    rw [exportText, preferences, config, exportText]
  refine ⟨?_, preferences, config, exported⟩
  have imported : (importValue (exportValue (load source) (load source)).sorted).perform store =
      (.ok (), after) := by
    rw [perform_importValue, perform_saveBoth first second]
    · rw [preferencesFound]
      exact importSection_encode _ _
    · rw [configFound]
      exact importSection_encode _ _
  rw [exportText, perform_importText parsed, imported]
  rfl

/-- Preferences with a member of no field, and a layout that cannot be read. -/
def unevenStore : MemoryStore :=
  ⟨[(key Preferences, (Json.object [("theme", .string "dark"), ("accent", .null)]).compact),
    (key SystemConfig, "nope")]⟩

/-- Preferences with a favorite, and no layout. -/
def likingStore : MemoryStore :=
  ⟨[(key Preferences, (Json.object [("favoriteUtilities", .ofStrings ["ping"])]).compact)]⟩

theorem importText_exportText_uneven :
    ∃ after, (importText (exportText unevenStore)).perform likingStore = (.ok true, after) ∧
      (load after : Preferences) = load unevenStore ∧
      (load after : SystemConfig) = load unevenStore ∧
      exportText after = exportText unevenStore :=
  ⟨_, importText_exportText unevenStore (MemoryStore.writes likingStore _ _)
    (MemoryStore.writes _ _ _)⟩

end Preferences

end CommandSynthesis
