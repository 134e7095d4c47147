import CommandSynthesis.Proofs.Preferences.Composition
import CommandSynthesis.Proofs.Preferences.Patch
import CommandSynthesis.Proofs.Store.Refinement

set_option autoImplicit false

/-!
# Updates

A patch changes what it names and nothing else: no other field of the document, no other document
and no other text of the store. It is refused when it is no object or when a field in it cannot be
decoded, and then, as when the document cannot be written, nothing changes.
-/

namespace CommandSynthesis

open Json

/-! ## Writes that leave other keys alone -/

namespace Store

variable {σ : Type} [Store σ]

/-- How the write of a text ends: the key has the text and other keys are kept, or all keys are. -/
inductive EndsWrite (kept : String → σ → σ → Prop) (store : σ) (key text : String) :
    Except Failure Unit × σ → Prop where
  | done {after : σ} : get? after key = some text →
      (∀ other, other ≠ key → kept other store after) →
      EndsWrite kept store key text (.ok (), after)
  | failed {failure : Failure} {after : σ} : (∀ other, kept other store after) →
      EndsWrite kept store key text (.error failure, after)

/-- Whatever is written under the key, other keys are kept. -/
structure WritesApart (kept : String → σ → σ → Prop) (store : σ) (key : String) : Prop where
  refl : ∀ other, kept other store store
  set : ∀ text, EndsWrite kept store key text ((Store.set key text).perform store)

/-- The text of the key is the same. -/
def Same (key : String) (before after : σ) : Prop :=
  get? after key = get? before key

theorem Atomic.writesApart {good : σ → Prop} (atomic : Atomic good) {store : σ} (start : good store)
    (key : String) : WritesApart Same store key where
  refl _ := rfl
  set text := by
    have settles := atomic.set start key trivial text
    generalize (Store.set key text).perform store = result at settles
    cases settles with
    | done _ texts =>
      refine .done (by rw [texts trivial, Function.update_self]) fun other different => ?_
      rw [Same, texts trivial, Function.update_of_ne different]
    | failed _ texts => exact .failed fun other => texts trivial

end Store

namespace FileStore

/-- The text of the key is the same, or it was out of reach and is what its file held. -/
def Keeps (key : String) (before after : FileStore) : Prop :=
  Store.Same key before after ∨
    ¬ before.InView key ∧ Store.get? before key = none ∧ Store.get? after key = before.textAt key

theorem Spares.keeps {key : String} {before after : FileStore} (spares : Spares key before after) :
    Keeps key before after := by
  by_cases inView : before.InView key
  · exact .inl (spares.get?_eq inView)
  · rcases spares.get? with same | ⟨-, -, missing, uncovered⟩
    · exact .inl same
    · exact .inr ⟨inView, missing, uncovered⟩

theorem writesApart {key : String}
    (plain : key.toList.all (fun c => isNameChar c && c != '_') = true) (store : FileStore) :
    Store.WritesApart Keeps store key where
  refl _ := .inl rfl
  set text := by
    change Store.EndsWrite Keeps store key text ((write key text).perform store)
    have spares {other : String} (different : other ≠ key) :
        Spares other store ((write key text).perform store).2 :=
      spares_write (fun same => different (eq_of_sanitize plain same)) store text
    cases written : (write key text).perform store with
    | mk outcome after =>
    rw [written] at spares
    cases outcome with
    | error failure => exact .failed fun other => (spares_of_write_failed written other).keeps
    | ok =>
      exact .done (get?_of_write_done written rfl).1 fun other different => (spares different).keeps

end FileStore

/-! ## Documents under patches -/

/-- A kind of document with its fields, what a patch makes of it, and which patches say the same of
its fields. -/
class Patchable (α : Type) [StoredDocument α] where
  fields : List Field
  Follows : List (String × Json) → α → α → Prop
  Agree : List (String × Json) → List (String × Json) → Prop
  overlaid_iff : ∀ {patch : List (String × Json)} {old new : α}, IsDistinct (.object patch) →
    (StoredDocument.decode.ofValue
        (overlay (StoredDocument.encode old).sorted (.object patch)) = .ok new ↔
      Follows patch old new)
  exists_follows_iff : ∀ {patch : List (String × Json)}, IsDistinct (.object patch) →
    ∀ old : α, (∃ new, Follows patch old new) ↔ ∀ field ∈ fields, field.Fits .value patch
  follows_congr : ∀ {first second : List (String × Json)}, Agree first second →
    ∀ old new : α, Follows first old new ↔ Follows second old new

instance : Patchable Preferences where
  fields := Preferences.fields
  Follows := Preferences.Follows
  Agree := AgreeOn Preferences.fields
  overlaid_iff := Preferences.overlaid_iff
  exists_follows_iff := Preferences.exists_follows_iff
  follows_congr agree _ _ := Preferences.follows_congr agree

instance : Patchable SystemConfig where
  fields := SystemConfig.fields
  Follows := SystemConfig.Follows
  Agree := SystemConfig.Agree
  overlaid_iff := SystemConfig.overlaid_iff
  exists_follows_iff := SystemConfig.exists_follows_iff
  follows_congr agree _ _ := SystemConfig.follows_congr agree

theorem mapError_eq_ok_iff {ε ε' α : Type} {outcome : Except ε α} {f : ε → ε'} {value : α} :
    outcome.mapError f = .ok value ↔ outcome = .ok value := by
  cases outcome <;> simp [Except.mapError]

namespace StoredDocument

variable {σ α : Type} [Store σ] [StoredDocument α]

section Perform

variable {store : σ} {patch : Json}

/-- With a patch that fits, an update ends as the writing does. -/
theorem perform_update_of_fits {new : α} (fits : patched (load store) patch = .ok new) :
    (update patch).perform store =
      (((save new).perform store).1.map fun _ => new, ((save new).perform store).2) := by
  cases saved : (save new).perform store with
  | mk outcome after =>
  cases outcome with
  | ok => exact Preferences.perform_update_ok fits saved
  | error failure =>
    unfold update
    rw [Action.perform_bind_ok (Action.perform_get? _ _)]
    simp only [load] at fits
    simp only [fits]
    exact Action.perform_bind_error saved _

theorem perform_update_eq_ok_iff {after : σ} {new : α} :
    (update patch).perform store = (.ok new, after) ↔
      patched (load store) patch = .ok new ∧ (save new).perform store = (.ok (), after) := by
  cases fits : patched (load store : α) patch with
  | error failure => simp [Preferences.perform_update_error fits]
  | ok updated =>
    rw [perform_update_of_fits fits, Except.ok.injEq]
    cases saved : (save updated).perform store with
    | mk outcome left =>
    constructor
    · intro done
      cases outcome with
      | error failure => cases done
      | ok =>
        cases done
        exact ⟨rfl, saved⟩
    · rintro ⟨rfl, written⟩
      cases saved.symm.trans written
      rfl

theorem perform_update_eq_error_iff {failure : Failure} {after : σ} :
    (update patch : Action σ α).perform store = (.error failure, after) ↔
      (patched (load store : α) patch = .error failure ∧ after = store) ∨
        ∃ new : α, patched (load store) patch = .ok new ∧
          (save new).perform store = (.error failure, after) := by
  cases fits : patched (load store : α) patch with
  | error refusal => simp [Preferences.perform_update_error fits, eq_comm]
  | ok updated =>
    rw [perform_update_of_fits fits]
    cases saved : (save updated).perform store with
    | mk outcome left =>
    cases outcome <;> simp [saved, Except.map]

theorem endsWrite_save {kept : String → σ → σ → Prop}
    (apart : Store.WritesApart kept store (key α)) (new : α) :
    Store.EndsWrite kept store (key α) (encode new).compact ((save new).perform store) :=
  apart.set _

end Perform

variable [Patchable α]

/-- The patch is an object, and each field that it gives can be decoded. -/
def Fits (α : Type) [StoredDocument α] [Patchable α] (patch : Json) : Prop :=
  patch.isObject = true ∧ ∀ field ∈ Patchable.fields α, field.Fits .value patch.members

theorem patched_eq_ok_iff {patch : Json} (distinct : IsDistinct patch) {old new : α} :
    patched old patch = .ok new ↔
      patch.isObject = true ∧ Patchable.Follows patch.members old new := by
  unfold patched
  split
  · next object =>
    rw [mapError_eq_ok_iff]
    cases patch with
    | object members =>
      exact (Patchable.overlaid_iff distinct).trans ⟨fun follows => ⟨rfl, follows⟩, And.right⟩
    | _ => cases object
  · next other => exact ⟨nofun, fun fits => absurd fits.1 other⟩

/-- A patch fits exactly when it makes some document of any other. -/
theorem fits_iff {patch : Json} (distinct : IsDistinct patch) (old : α) :
    Fits α patch ↔ ∃ new, patched old patch = .ok new := by
  simp only [patched_eq_ok_iff distinct, exists_and_left]
  refine and_congr_right fun object => ?_
  cases patch with
  | object members => exact (Patchable.exists_follows_iff distinct old).symm
  | _ => cases object

/-- What an update with a patch does: it fails when the patch does not fit, without any change, and
when the document cannot be written. Otherwise the document is what the patch makes of the old one,
whatever members it has that are no fields, and nothing else changes. -/
structure Obeys (α : Type) [StoredDocument α] [Patchable α] (kept : String → σ → σ → Prop)
    (store : σ) (patch : Json) : Prop where
  fails_iff :
    (∃ failure after, (update patch : Action σ α).perform store = (.error failure, after)) ↔
    ¬ Fits α patch ∨
      ∃ (new : α) (failure : Failure) (after : σ),
        Patchable.Follows patch.members (load store) new ∧
        (save new).perform store = (.error failure, after)
  misfit : ¬ Fits α patch →
    ∃ failure, (update patch : Action σ α).perform store = (.error failure, store)
  failed : ∀ failure after, (update patch : Action σ α).perform store = (.error failure, after) →
    ∀ key, kept key store after
  done : ∀ (new : α) (after : σ), (update patch).perform store = (.ok new, after) →
    Patchable.Follows patch.members (load store) new ∧ load after = new ∧
      ∀ other, other ≠ key α → kept other store after
  fieldwise : ∀ other : Json, IsDistinct other → other.isObject = patch.isObject →
    Patchable.Agree α patch.members other.members → ∀ (new : α) (after : σ),
      (update patch).perform store = (.ok new, after) ↔
        (update other).perform store = (.ok new, after)

theorem perform_misfit {patch : Json} (distinct : IsDistinct patch) (misfit : ¬ Fits α patch)
    (store : σ) :
    ∃ failure, (update patch : Action σ α).perform store = (.error failure, store) := by
  cases made : patched (load store : α) patch with
  | error failure => exact ⟨failure, Preferences.perform_update_error made⟩
  | ok new => exact absurd ((fits_iff distinct _).2 ⟨new, made⟩) misfit

/-- An update does what its patch says in every store in which a write keeps the other keys. -/
theorem obeys_of_writesApart [IsFaithful α] {kept : String → σ → σ → Prop} {store : σ}
    (apart : Store.WritesApart kept store (key α)) {patch : Json} (distinct : IsDistinct patch) :
    Obeys α kept store patch where
  fails_iff := by
    constructor
    · rintro ⟨failure, after, performed⟩
      rcases perform_update_eq_error_iff.1 performed with ⟨refused, _⟩ | ⟨new, fits, failed⟩
      · refine .inl fun fits => ?_
        obtain ⟨new, made⟩ := (fits_iff distinct (load store)).1 fits
        cases refused.symm.trans made
      · exact .inr ⟨new, failure, after, ((patched_eq_ok_iff distinct).1 fits).2, failed⟩
    · rintro (misfit | ⟨new, failure, after, follows, failed⟩)
      · obtain ⟨failure, performed⟩ := perform_misfit distinct misfit store
        exact ⟨failure, store, performed⟩
      · by_cases object : patch.isObject = true
        · have fits := (patched_eq_ok_iff distinct).2 ⟨object, follows⟩
          exact ⟨failure, after, perform_update_eq_error_iff.2 (.inr ⟨new, fits, failed⟩)⟩
        · have misfit : ¬ Fits α patch := fun fits => object fits.1
          obtain ⟨failure, performed⟩ := perform_misfit distinct misfit store
          exact ⟨failure, store, performed⟩
  misfit misfit := perform_misfit distinct misfit store
  failed failure after performed := by
    rcases perform_update_eq_error_iff.1 performed with ⟨_, rfl⟩ | ⟨new, _, failed⟩
    · exact apart.refl
    · have ends := endsWrite_save apart new
      rw [failed] at ends
      cases ends with
      | failed kept => exact kept
  done new after performed := by
    obtain ⟨made, saved⟩ := perform_update_eq_ok_iff.1 performed
    have ends := endsWrite_save apart new
    rw [saved] at ends
    cases ends with
    | done text others =>
      have loaded : load after = new := by rw [load, text, ofText_encode]
      exact ⟨((patched_eq_ok_iff distinct).1 made).2, loaded, others⟩
  fieldwise other otherDistinct object agree new after := by
    rw [perform_update_eq_ok_iff, perform_update_eq_ok_iff, patched_eq_ok_iff distinct,
      patched_eq_ok_iff otherDistinct, object, Patchable.follows_congr agree]

end StoredDocument

open StoredDocument

/-- Updates do what their patches say over all stores with atomic calls, as those in memory,
whatever writes fail in front of them; and over stores in files, except that there a text that was
out of reach may be uncovered. -/
theorem obeys_update {patch : Json} (distinct : IsDistinct patch) :
    (∀ {σ : Type} [Store σ] {good : σ → Prop}, Store.Atomic good → ∀ store, good store →
      Obeys Preferences Store.Same store patch ∧ Obeys SystemConfig Store.Same store patch) ∧
    ∀ store : FileStore,
      Obeys Preferences FileStore.Keeps store patch ∧
      Obeys SystemConfig FileStore.Keeps store patch := by
  constructor
  · intro σ _ good atomic store start
    exact ⟨obeys_of_writesApart (atomic.writesApart start _) distinct,
      obeys_of_writesApart (atomic.writesApart start _) distinct⟩
  · intro store
    exact ⟨obeys_of_writesApart (store.writesApart (by decide)) distinct,
      obeys_of_writesApart (store.writesApart (by decide)) distinct⟩

theorem perform_of_toOption {σ α : Type} {action : Action σ α} {store : σ} {value : α}
    (found : (action.perform store).1.toOption = some value) :
    action.perform store = (.ok value, (action.perform store).2) :=
  Prod.ext (Preferences.ok_of_toOption found) rfl

/-- A patch with fields of both documents, one of them a list of fields in place of an object, and
with members that are no fields. -/
def mixedPatch : Json :=
  .object [("theme", .string "dark"), ("extra", .null),
    ("commonPaths", .object [("size", .bool true), ("logDirectory", .string "/l")]),
    ("networkSettings", .array [.string "h"])]

theorem obeys_update_mixed :
    IsDistinct mixedPatch ∧
      (∃ (new : Preferences) (after : MemoryStore),
        (update mixedPatch).perform Preferences.likingStore = (.ok new, after) ∧
          new = { favorites := ["ping"], theme := .dark } ∧ load after = new) ∧
      ∃ (new : SystemConfig) (after : FileStore),
        (update mixedPatch).perform FileStore.unmade = (.ok new, after) ∧
          new = { commonPaths := { logDirectory := "/l" },
                  networkSettings := { defaultTestHost := "h" } } ∧
          load after = new ∧ ∀ other, other ≠ key SystemConfig →
            FileStore.Keeps other FileStore.unmade after := by
  have distinct : IsDistinct mixedPatch := by
    simp [mixedPatch, IsDistinct, AreDistinct, AreDistinctMembers, keys]
  obtain ⟨atomic, files⟩ := obeys_update distinct
  have liked : ((update mixedPatch : Action MemoryStore Preferences).perform
      Preferences.likingStore).1.toOption = some { favorites := ["ping"], theme := .dark } := by
    decide +kernel
  have made : ((update mixedPatch : Action FileStore SystemConfig).perform
      FileStore.unmade).1.toOption =
        some { commonPaths := { logDirectory := "/l" },
               networkSettings := { defaultTestHost := "h" } } := by
    decide +kernel
  have liked := perform_of_toOption liked
  have made := perform_of_toOption made
  obtain ⟨_, loaded, _⟩ :=
    (atomic MemoryStore.atomic Preferences.likingStore trivial).1.done _ _ liked
  obtain ⟨_, loaded', others⟩ := (files FileStore.unmade).2.done _ _ made
  exact ⟨distinct, ⟨_, _, liked, rfl, loaded⟩, _, _, made, rfl, loaded', others⟩

/-- An update that makes the way to a directory brings the text of another key to light. -/
theorem update_uncovers :
    ∃ (new : Preferences) (after : FileStore),
      (update (.object [])).perform FileStore.detour = (.ok new, after) ∧
        "k" ≠ key Preferences ∧ Store.get? FileStore.detour "k" = none ∧
        Store.get? after "k" = some "x" := by
  have performed : ((update (.object []) : Action FileStore Preferences).perform
      FileStore.detour).1.toOption = some {} := by
    decide +kernel
  refine ⟨{}, _, perform_of_toOption performed, by decide, ?_, ?_⟩
  · decide +kernel
  · decide +kernel

end CommandSynthesis
