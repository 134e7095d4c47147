import CommandSynthesis.History.Basic
import CommandSynthesis.Preferences.Documents
import CommandSynthesis.Proofs.Store.Service

set_option autoImplicit false

/-!
# Documents and their keys

Three documents share a store: the history, the preferences and the layout of the system. Each
operation calls on the keys of its own documents alone, and the three keys have different files.
-/

namespace CommandSynthesis

open CommandSynthesis.Action (Within)

variable {σ : Type} [Store σ]

namespace History

theorem within_append (capacity : UInt64) (entry : Synthesis) :
    Within {key} (append capacity entry : Action σ Unit) := by
  unfold append
  exact .bind (.get? rfl) fun _ => .set rfl

theorem within_clear : Within {key} (clear : Action σ Unit) :=
  .remove rfl

end History

namespace StoredDocument

variable {α : Type} [StoredDocument α]

theorem within_save (value : α) : Within {key α} (save value : Action σ Unit) :=
  .set rfl

theorem within_update (patch : Json) : Within {key α} (update patch : Action σ α) := by
  unfold update
  refine .bind (.get? rfl) fun text => ?_
  dsimp only
  cases patched (ofText text : α) patch with
  | error failure => exact .throw failure
  | ok updated => exact .bind (within_save updated) fun _ => .pure updated

end StoredDocument

namespace Preferences

open StoredDocument

/-- The keys of the preferences and the layout. -/
def documentKeys : Set String :=
  {key Preferences, key SystemConfig}

theorem preferences_mem : key Preferences ∈ documentKeys := .inl rfl

theorem config_mem : key SystemConfig ∈ documentKeys := .inr rfl

theorem preferences_subset : {key Preferences} ⊆ documentKeys :=
  Set.singleton_subset_iff.mpr preferences_mem

theorem config_subset : {key SystemConfig} ⊆ documentKeys :=
  Set.singleton_subset_iff.mpr config_mem

theorem within_toggle (id : String) : Within {key Preferences} (toggle id : Action σ Bool) := by
  unfold toggle
  exact .bind (.get? rfl) fun _ => .bind (within_save _) fun _ => .pure _

theorem within_reset : Within documentKeys (reset : Action σ Unit) :=
  .bind (.remove preferences_mem) fun _ => .remove config_mem

theorem within_saveSome {α : Type} [StoredDocument α] (value : Option α) :
    Within {key α} (saveSome value : Action σ Unit) := by
  cases value with
  | none => exact .pure ()
  | some value => exact within_save value

theorem within_restore (key : String) (text : Option String) :
    Within {key} (restore key text : Action σ Unit) := by
  cases text with
  | none => exact .remove rfl
  | some text => exact .set rfl

theorem within_saveBoth (preferences : Option Preferences) (config : Option SystemConfig) :
    Within documentKeys (saveBoth preferences config : Action σ Unit) := by
  unfold saveBoth
  refine .bind (.get? preferences_mem) fun previous => ?_
  refine .bind ((within_saveSome preferences).mono preferences_subset) fun _ => ?_
  refine .bind (.attempt ((within_saveSome config).mono config_subset)) fun outcome => ?_
  cases outcome with
  | ok => exact .pure ()
  | error failure =>
    have restores :=
      Within.attempt (α := Unit) ((within_restore (σ := σ) _ previous).mono preferences_subset)
    cases preferences with
    | none => exact .throw failure
    | some preferences => exact .bind restores fun _ => .throw failure

theorem within_importValue (value : Json) :
    Within documentKeys (importValue value : Action σ Unit) := by
  unfold importValue
  refine .bind (.get? preferences_mem) fun _ => .bind (.get? config_mem) fun _ => ?_
  dsimp only
  split
  · exact within_saveBoth _ _
  · exact .throw _
  · exact .throw _

theorem within_importText (text : String) :
    Within documentKeys (importText text : Action σ Bool) := by
  unfold importText
  split
  · exact .pure false
  · refine .bind (.attempt (within_importValue _)) fun outcome => ?_
    cases outcome with
    | ok => exact .pure true
    | error failure => exact .pure false

end Preferences

/-- The keys of all documents. -/
def documents : Set String :=
  insert History.key Preferences.documentKeys

theorem documentKeys_subset : Preferences.documentKeys ⊆ documents :=
  Set.subset_insert _ _

theorem history_notMem_documentKeys : History.key ∉ Preferences.documentKeys := by
  rintro (same | same)
  · exact absurd same (by decide)
  · exact absurd same (by decide)

/-- No other key shares the file of a document. -/
theorem eq_of_sanitize_document {document view : String} (mem : document ∈ documents)
    (same : FileStore.sanitize view = FileStore.sanitize document) : view = document := by
  rcases mem with rfl | rfl | rfl
  all_goals exact FileStore.eq_of_sanitize (by decide) same

namespace FileStore

theorem atomicOn_documents (views : Set String) :
    Store.AtomicOn documents views (Presents views) :=
  atomicOn fun _ mem _ _ same => eq_of_sanitize_document mem same

theorem atomicOn_serving_documents (views : Set String) :
    Store.AtomicOn documents views (Serving documents views) :=
  atomicOn_serving fun _ mem _ _ same => eq_of_sanitize_document mem same

/-- In a directory that has to be made, all documents can be written. -/
theorem serving_unmade (views : Set String) : Serving documents views unmade where
  presents := fresh_unmade.presents views
  accepts := by
    rintro _ (rfl | rfl | rfl)
    all_goals exact accepts_iff.mpr (by decide +kernel)

end FileStore

end CommandSynthesis
