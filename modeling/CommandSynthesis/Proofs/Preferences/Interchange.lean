import CommandSynthesis.Proofs.Preferences.Update
import CommandSynthesis.Proofs.Store.Service

set_option autoImplicit false

/-!
# Patches in any order

Patches that name different fields make the same document in either order, and a patch that is
applied again changes nothing. Between two patches the document is written and read, so the second
is laid over what the decoder made of the first and not over the first itself. What carries over is
how a run of patches acts on a single field, and that is compared field by field, within sections
too.
-/

namespace CommandSynthesis

open Json

/-! ## Runs of patches -/

/-- The new thing comes of the old one by some patches, one after another. -/
def Leads {P α : Type} (follows : P → α → α → Prop) : List P → α → α → Prop
  | [], old, new => new = old
  | patch :: rest, old, new => ∃ middle, follows patch old middle ∧ Leads follows rest middle new

/-- A run of patches acts on a part of a thing as its patches do. -/
theorem Leads.part {P α β : Type} {follows : P → α → α → Prop} {inner : P → β → β → Prop}
    (part : α → β)
    (step : ∀ {patch old new}, follows patch old new → inner patch (part old) (part new))
    {patches : List P} {old new : α} (leads : Leads follows patches old new) :
    Leads inner patches (part old) (part new) := by
  induction patches generalizing old with
  | nil => exact congrArg part leads
  | cons patch rest ih =>
    obtain ⟨middle, first, others⟩ := leads
    exact ⟨part middle, step first, ih others⟩

/-- Two runs of at most two patches that are the same but for the order of patches that are apart,
or for the repetition of one. -/
inductive Rearranged {P : Type} (apart : P → P → Prop) : List P → List P → Prop where
  | nothing : Rearranged apart [] []
  | alone (patch : P) : Rearranged apart [patch] [patch]
  | repeated (patch : P) : Rearranged apart [patch, patch] [patch]
  | swapped {first second : P} : apart first second →
      Rearranged apart [first, second] [second, first]

/-- What is left of two patches that are apart is apart, or one of them leaves nothing. -/
def LeavesApart {P Q : Type} (apart : P → P → Prop) (apart' : Q → Q → Prop) (f : P → Option Q) :
    Prop :=
  ∀ ⦃first second : P⦄, apart first second → ∀ ⦃left right : Q⦄, f first = some left →
    f second = some right → apart' left right

theorem Rearranged.filterMap {P Q : Type} {apart : P → P → Prop} {apart' : Q → Q → Prop}
    {f : P → Option Q} (leaves : LeavesApart apart apart' f) {patches others : List P}
    (rearranged : Rearranged apart patches others) :
    Rearranged apart' (patches.filterMap f) (others.filterMap f) := by
  cases rearranged with
  | nothing => exact .nothing
  | alone patch =>
    cases left : f patch with
    | none => simpa [left] using Rearranged.nothing
    | some value => simpa [left] using Rearranged.alone value
  | repeated patch =>
    cases left : f patch with
    | none => simpa [left] using Rearranged.nothing
    | some value => simpa [left] using Rearranged.repeated value
  | @swapped first second apart =>
    cases left : f first with
    | none =>
      cases right : f second with
      | none => simpa [left, right] using Rearranged.nothing
      | some value => simpa [left, right] using Rearranged.alone value
    | some value =>
      cases right : f second with
      | none => simpa [left, right] using Rearranged.alone value
      | some value' => simpa [left, right] using Rearranged.swapped (leaves apart left right)

theorem Rearranged.nil_iff {P : Type} {apart : P → P → Prop} {patches others : List P}
    (rearranged : Rearranged apart patches others) : patches = [] ↔ others = [] := by
  cases rearranged <;> simp

/-- Rearranged runs make the same of a thing. -/
def Unaffected {P α : Type} (apart : P → P → Prop) (follows : P → α → α → Prop) : Prop :=
  ∀ ⦃patches others : List P⦄ ⦃old new new' : α⦄, Rearranged apart patches others →
    Leads follows patches old new → Leads follows others old new' → new = new'

/-! ## Runs on fields -/

/-- The members have no key in common. -/
def KeysDisjoint (first second : List (String × Json)) : Prop :=
  (keys first).Disjoint (keys second)

/-- Both values are objects, and they have no key in common. -/
def ObjectsApart (first second : Json) : Prop :=
  ∃ left right, first = .object left ∧ second = .object right ∧ KeysDisjoint left right

/-- Every key that both have stands for objects that have no key in common. -/
def ApartInSections (first second : List (String × Json)) : Prop :=
  ∀ name ∈ keys first, name ∈ keys second → ∃ left right,
    lookup? name first = some left ∧ lookup? name second = some right ∧ ObjectsApart left right

theorem mem_keys_of_lookup? {name : String} {members : List (String × Json)} {value : Json}
    (found : lookup? name members = some value) : name ∈ keys members :=
  List.mem_map.2 ⟨(name, value), mem_of_lookup? found, rfl⟩

theorem leavesApart_disjoint (name : String) :
    LeavesApart KeysDisjoint (fun _ _ : Json => False) (lookup? name) := by
  intro first second disjoint left right found found'
  exact disjoint (mem_keys_of_lookup? found) (mem_keys_of_lookup? found')

theorem leavesApart_sections (name : String) :
    LeavesApart ApartInSections ObjectsApart (lookup? name) := by
  intro first second apart left right found found'
  obtain ⟨value, value', same, same', objects⟩ :=
    apart name (mem_keys_of_lookup? found) (mem_keys_of_lookup? found')
  cases same.symm.trans found
  cases same'.symm.trans found'
  exact objects

section Fields

variable {α : Type} {decoder : Decoder α} {follows : List (String × Json) → α → α → Prop}
  {rule : PatchRule α} {apart : List (String × Json) → List (String × Json) → Prop}
  {apart' : Json → Json → Prop}

/-- On a field only those patches of a run act that give it. -/
theorem leads_takes_iff {name : String} {patches : List (List (String × Json))} {old new : α} :
    Leads (Takes rule name) patches old new ↔
      Leads rule (patches.filterMap (lookup? name)) old new := by
  induction patches generalizing old with
  | nil => exact Iff.rfl
  | cons patch rest ih =>
    rw [Leads, List.filterMap_cons]
    simp only [Takes, ih]
    cases lookup? name patch with
    | none => simp
    | some value => rfl

theorem Unaffected.takes (unaffected : Unaffected apart' rule) {name : String}
    (leaves : LeavesApart apart apart' (lookup? name)) : Unaffected apart (Takes rule name) := by
  intro patches others old new new' rearranged first second
  rw [leads_takes_iff] at first second
  exact unaffected (rearranged.filterMap leaves) first second

/-- A field that is decoded as a whole has the value of the last patch that gives it. -/
theorem unaffected_whole : Unaffected (fun _ _ => False) (PatchRule.whole decoder) := by
  intro patches others old new new' rearranged first second
  cases rearranged with
  | nothing => exact first.trans second.symm
  | alone value =>
    obtain ⟨_, made, rfl⟩ := first
    obtain ⟨_, made', rfl⟩ := second
    exact Except.ok.inj (made.symm.trans made')
  | repeated value =>
    obtain ⟨_, _, _, made, rfl⟩ := first
    obtain ⟨_, made', rfl⟩ := second
    exact Except.ok.inj (made.symm.trans made')
  | swapped apart => exact apart.elim

/-- On a section a run of objects acts as their members do. -/
theorem leads_within_objects {patches : List (List (String × Json))} {old new : α} :
    Leads (PatchRule.within decoder follows) (patches.map .object) old new ↔
      Leads follows patches old new := by
  induction patches generalizing old with
  | nil => exact Iff.rfl
  | cons patch rest ih => simp only [List.map_cons, Leads, ih, PatchRule.within]

theorem Unaffected.within (unaffected : Unaffected KeysDisjoint follows) :
    Unaffected ObjectsApart (PatchRule.within decoder follows) := by
  intro patches others old new new' rearranged first second
  have objects {patches others : List (List (String × Json))}
      (rearranged : Rearranged KeysDisjoint patches others)
      (first : Leads (PatchRule.within decoder follows) (patches.map .object) old new)
      (second : Leads (PatchRule.within decoder follows) (others.map .object) old new') :
      new = new' :=
    unaffected rearranged (leads_within_objects.1 first) (leads_within_objects.1 second)
  -- A value that is no object is decoded as a whole.
  have whole {value : Json} {old : α} (other : value.isObject = false) {result : α}
      (follows' : PatchRule.within decoder follows value old result) :
      decoder.ofValue value = .ok result := by
    cases value with
    | object members => cases other
    | _ => exact follows'
  cases rearranged with
  | nothing => exact first.trans second.symm
  | alone value =>
    rcases value.isObject_eq_false_or_exists with other | ⟨members, rfl⟩
    · obtain ⟨_, made, rfl⟩ := first
      obtain ⟨_, made', rfl⟩ := second
      exact Except.ok.inj ((whole other made).symm.trans (whole other made'))
    · exact objects (.alone members) first second
  | repeated value =>
    rcases value.isObject_eq_false_or_exists with other | ⟨members, rfl⟩
    · obtain ⟨_, _, _, made, rfl⟩ := first
      obtain ⟨_, made', rfl⟩ := second
      exact Except.ok.inj ((whole other made).symm.trans (whole other made'))
    · exact objects (.repeated members) first second
  | swapped apart =>
    obtain ⟨left, right, rfl, rfl, disjoint⟩ := apart
    exact objects (.swapped disjoint) first second

end Fields

/-! ## Runs on documents -/

theorem unaffected_field {α : Type} (decoder : Decoder α) (name : String) :
    Unaffected KeysDisjoint (Takes (.whole decoder) name) :=
  unaffected_whole.takes (leavesApart_disjoint name)

theorem unaffected_section {α : Type} {decoder : Decoder α}
    {follows : List (String × Json) → α → α → Prop} (unaffected : Unaffected KeysDisjoint follows)
    (name : String) : Unaffected ApartInSections (Takes (.within decoder follows) name) :=
  unaffected.within.takes (leavesApart_sections name)

theorem CommonPaths.unaffected : Unaffected KeysDisjoint Follows := by
  intro patches others old new new' rearranged first second
  have install := unaffected_field _ _ rearranged (first.part sapInstallPath fun all => all.1)
    (second.part sapInstallPath fun all => all.1)
  have logs := unaffected_field _ _ rearranged (first.part logDirectory fun all => all.2.1)
    (second.part logDirectory fun all => all.2.1)
  have backup := unaffected_field _ _ rearranged (first.part backupDirectory fun all => all.2.2.1)
    (second.part backupDirectory fun all => all.2.2.1)
  have temporary := unaffected_field _ _ rearranged
    (first.part temporaryDirectory fun all => all.2.2.2)
    (second.part temporaryDirectory fun all => all.2.2.2)
  cases new
  cases new'
  congr

theorem NetworkSettings.unaffected : Unaffected KeysDisjoint Follows := by
  intro patches others old new new' rearranged first second
  have host := unaffected_field _ _ rearranged (first.part defaultTestHost fun all => all.1)
    (second.part defaultTestHost fun all => all.1)
  have timeout := unaffected_field _ _ rearranged (first.part timeoutSeconds fun all => all.2)
    (second.part timeoutSeconds fun all => all.2)
  cases new
  cases new'
  congr

theorem SecuritySettings.unaffected : Unaffected KeysDisjoint Follows := by
  intro patches others old new new' rearranged first second
  have danger := unaffected_field _ _ rearranged
    (first.part allowDangerousCommands fun all => all.1)
    (second.part allowDangerousCommands fun all => all.1)
  have confirmation := unaffected_field _ _ rearranged
    (first.part requireConfirmation fun all => all.2)
    (second.part requireConfirmation fun all => all.2)
  cases new
  cases new'
  congr

theorem Preferences.unaffected : Unaffected KeysDisjoint Follows := by
  intro patches others old new new' rearranged first second
  have sid := unaffected_field _ _ rearranged (first.part defaultSid fun all => all.1)
    (second.part defaultSid fun all => all.1)
  have number := unaffected_field _ _ rearranged
    (first.part defaultInstanceNumber fun all => all.2.1)
    (second.part defaultInstanceNumber fun all => all.2.1)
  have favorites := unaffected_field _ _ rearranged (first.part favorites fun all => all.2.2.1)
    (second.part favorites fun all => all.2.2.1)
  have theme := unaffected_field _ _ rearranged (first.part theme fun all => all.2.2.2.1)
    (second.part theme fun all => all.2.2.2.1)
  have limit := unaffected_field _ _ rearranged (first.part historyLimit fun all => all.2.2.2.2.1)
    (second.part historyLimit fun all => all.2.2.2.2.1)
  have warnings := unaffected_field _ _ rearranged
    (first.part showDangerWarnings fun all => all.2.2.2.2.2.1)
    (second.part showDangerWarnings fun all => all.2.2.2.2.2.1)
  have saving := unaffected_field _ _ rearranged
    (first.part autoSaveHistory fun all => all.2.2.2.2.2.2)
    (second.part autoSaveHistory fun all => all.2.2.2.2.2.2)
  cases new
  cases new'
  congr

theorem SystemConfig.unaffected : Unaffected ApartInSections Follows := by
  intro patches others old new new' rearranged first second
  have paths := unaffected_section CommonPaths.unaffected _ rearranged
    (first.part commonPaths fun all => all.1) (second.part commonPaths fun all => all.1)
  have network := unaffected_section NetworkSettings.unaffected _ rearranged
    (first.part networkSettings fun all => all.2.1) (second.part networkSettings fun all => all.2.1)
  have security := unaffected_section SecuritySettings.unaffected _ rearranged
    (first.part securitySettings fun all => all.2.2)
    (second.part securitySettings fun all => all.2.2)
  cases new
  cases new'
  congr

/-! ## Runs of updates -/

/-- From a good state every write of the key succeeds, and leads to a good state. -/
def Store.WritableAt {σ : Type} [Store σ] (key : String) (good : σ → Prop) : Prop :=
  ∀ store, good store → ∀ text, ∃ after, good after ∧
    (Store.set key text).perform store = (.ok (), after) ∧ Store.get? after key = some text

theorem Store.WritableOn.writableAt {σ : Type} [Store σ] {keys views : Set String}
    {good : σ → Prop} (writable : Store.WritableOn keys views good) {key : String}
    (mem : key ∈ keys) (viewed : key ∈ views) : Store.WritableAt key good := by
  intro store start text
  obtain ⟨after, fine, saved, texts⟩ := writable store start key mem text
  exact ⟨after, fine, saved, (texts viewed).trans (Function.update_self _ _ _)⟩

theorem MemoryStore.writableAt (key : String) :
    Store.WritableAt key fun _ : MemoryStore => True :=
  (atomic.writableOn (serves Set.univ)).writableAt trivial trivial

/-- A store in files that accepts all writes of a key goes on accepting them. -/
theorem FileStore.writableAt (key : String) :
    Store.WritableAt key fun store : FileStore => store.Accepts key := by
  intro store accepts text
  have written : (write key text).perform store = (.ok (), ((write key text).perform store).2) :=
    Prod.ext (accepts.set text) rfl
  exact ⟨_, accepts_write accepts accepts text, written, (get?_of_write_done written rfl).1⟩

namespace StoredDocument

open Preferences

variable {σ α : Type} [Store σ] [StoredDocument α]

/-- The store after an update with the patch, whether it was accepted or refused. -/
def updated (α : Type) [StoredDocument α] (store : σ) (patch : Json) : σ :=
  ((update patch : Action σ α).perform store).2

/-- The store after updates with the patches, one after another. -/
def updatedAll (α : Type) [StoredDocument α] (store : σ) (patches : List Json) : σ :=
  patches.foldl (updated α) store

section Writable

variable {good : σ → Prop} (writable : Store.WritableAt (key α) good)

include writable

/-- An update that can be made is written. -/
theorem perform_updated {store : σ} (start : good store) {patch : Json} {new : α}
    (made : patched (load store) patch = .ok new) :
    (update patch).perform store = (.ok new, updated α store patch) ∧ good (updated α store patch) ∧
      Store.get? (updated α store patch) (key α) = some (encode new).compact := by
  obtain ⟨after, fine, saved, text⟩ := writable store start (encode new).compact
  have performed : (update patch).perform store = (.ok new, after) := perform_update_ok made saved
  have same : updated α store patch = after := by rw [updated, performed]
  rw [same]
  exact ⟨performed, fine, text⟩

theorem load_updated [IsFaithful α] {store : σ} (start : good store) {patch : Json} {new : α}
    (made : patched (load store) patch = .ok new) : load (updated α store patch) = new := by
  obtain ⟨_, _, text⟩ := perform_updated writable start made
  rw [load, text, ofText_encode]

variable [Patchable α]

open Classical in
/-- The members of a patch that fits. -/
noncomputable def fitting? (α : Type) [StoredDocument α] [Patchable α] (patch : Json) :
    Option (List (String × Json)) :=
  if Fits α patch then some patch.members else none

omit writable in
theorem exists_patched (store : σ) {patch : Json} (distinct : IsDistinct patch)
    (fits : Fits α patch) : ∃ new : α, patched (load store) patch = .ok new ∧
      Patchable.Follows patch.members (load store) new := by
  obtain ⟨new, made⟩ := (fits_iff distinct (load store : α)).1 fits
  exact ⟨new, made, ((patched_eq_ok_iff distinct).1 made).2⟩

omit writable in
theorem updated_of_misfit {patch : Json} (distinct : IsDistinct patch) (misfit : ¬ Fits α patch)
    (store : σ) : updated α store patch = store := by
  obtain ⟨failure, performed⟩ := perform_misfit distinct misfit store
  rw [updated, performed]

/-- Whether an update is refused depends on its patch alone. -/
theorem refuses_iff_misfit {store : σ} (start : good store) {patch : Json}
    (distinct : IsDistinct patch) : Refuses α store patch ↔ ¬ Fits α patch := by
  constructor
  · rintro ⟨failure, after, failed⟩ fits
    obtain ⟨new, made, _⟩ := exists_patched store distinct fits
    obtain ⟨performed, _, _⟩ := perform_updated writable start made
    cases failed.symm.trans performed
  · intro misfit
    obtain ⟨failure, performed⟩ := perform_misfit distinct misfit store
    exact ⟨failure, store, performed⟩

theorem good_updated {store : σ} (start : good store) {patch : Json} (distinct : IsDistinct patch) :
    good (updated α store patch) := by
  by_cases fits : Fits α patch
  · obtain ⟨new, made, _⟩ := exists_patched store distinct fits
    obtain ⟨_, fine, _⟩ := perform_updated writable start made
    exact fine
  · rw [updated_of_misfit distinct fits]
    exact start

/-- What a run of updates comes to: the document comes of the old one by the patches that fit, and
without any such patch nothing changes. -/
structure Reaches (α : Type) [StoredDocument α] [Patchable α] (store after : σ)
    (patches : List (List (String × Json))) (new : α) : Prop where
  leads : Leads Patchable.Follows patches (load store) new
  unchanged : patches = [] → after = store
  text : patches ≠ [] → Store.get? after (key α) = some (encode new).compact

theorem exists_reaches [IsFaithful α] {patches : List Json}
    (distinct : ∀ patch ∈ patches, IsDistinct patch) {store : σ} (start : good store) : ∃ new : α,
      Reaches α store (updatedAll α store patches) (patches.filterMap (fitting? α)) new := by
  induction patches generalizing store with
  | nil => exact ⟨load store, rfl, fun _ => rfl, fun some => absurd rfl some⟩
  | cons patch rest ih =>
    have own := distinct patch List.mem_cons_self
    have others := fun other member => distinct other (List.mem_cons_of_mem patch member)
    obtain ⟨new, reaches⟩ := ih others (good_updated writable start own)
    rw [List.filterMap_cons]
    change ∃ new, Reaches α store (updatedAll α (updated α store patch) rest) _ new
    by_cases fits : Fits α patch
    · obtain ⟨middle, made, follows⟩ := exists_patched store own fits
      obtain ⟨_, _, text⟩ := perform_updated writable start made
      have leads := reaches.leads
      rw [load_updated writable start made] at leads
      simp only [fitting?, if_pos fits]
      refine ⟨new, ⟨middle, follows, leads⟩, nofun, fun _ => ?_⟩
      by_cases last : rest.filterMap (fitting? α) = []
      · rw [last] at leads
        cases leads
        rw [reaches.unchanged last, text]
      · exact reaches.text last
    · rw [updated_of_misfit own fits] at reaches ⊢
      simp only [fitting?, if_neg fits]
      exact ⟨new, reaches⟩

omit writable in
theorem leavesApart_fitting (apart : List (String × Json) → List (String × Json) → Prop) :
    LeavesApart (fun first second : Json => apart first.members second.members) apart
      (fitting? α) := by
  have members {patch : Json} {members : List (String × Json)}
      (fits : fitting? α patch = some members) : patch.members = members := by
    unfold fitting? at fits
    split at fits
    · exact Option.some.inj fits
    · cases fits
  intro first second isApart left right fits fits'
  rw [members fits, members fits'] at isApart
  exact isApart

/-- Rearranged runs of updates end with the same text. -/
theorem get?_updatedAll [IsFaithful α] {apart : List (String × Json) → List (String × Json) → Prop}
    (unaffected : Unaffected apart (Patchable.Follows : List (String × Json) → α → α → Prop))
    {patches others : List Json}
    (rearranged :
      Rearranged (fun first second => apart first.members second.members) patches others)
    (distinct : ∀ patch ∈ patches, IsDistinct patch)
    (distinct' : ∀ patch ∈ others, IsDistinct patch) {store : σ} (start : good store) :
    Store.get? (updatedAll α store patches) (key α) =
      Store.get? (updatedAll α store others) (key α) := by
  obtain ⟨new, reaches⟩ := exists_reaches writable distinct start
  obtain ⟨new', reaches'⟩ := exists_reaches writable distinct' start
  have fitted := rearranged.filterMap (leavesApart_fitting (α := α) apart)
  have same := unaffected fitted reaches.leads reaches'.leads
  by_cases none : patches.filterMap (fitting? α) = []
  · rw [reaches.unchanged none, reaches'.unchanged (fitted.nil_iff.1 none)]
  · rw [reaches.text none, reaches'.text fun none' => none (fitted.nil_iff.2 none'), same]

end Writable

/-- Whether an update is refused depends on its patch alone; patches that are apart are refused and
make the same text of the document in either order, and a patch that is repeated makes no other text
than once. -/
structure Interchanges (α : Type) [StoredDocument α] (apart : Json → Json → Prop)
    (good : σ → Prop) : Prop where
  refuses_iff : ∀ patch, IsDistinct patch → ∀ store other, good store → good other →
    (Refuses α store patch ↔ Refuses α other patch)
  swapped : ∀ first second, IsDistinct first → IsDistinct second → apart first second →
    ∀ store, good store →
      (Refuses α store first ↔ Refuses α (updated α store second) first) ∧
      (Refuses α (updated α store first) second ↔ Refuses α store second) ∧
      Store.get? (updated α (updated α store first) second) (key α) =
        Store.get? (updated α (updated α store second) first) (key α)
  repeated : ∀ patch, IsDistinct patch → ∀ store, good store →
    Store.get? (updated α (updated α store patch) patch) (key α) =
      Store.get? (updated α store patch) (key α)

theorem interchanges_of_unaffected [Patchable α] [IsFaithful α]
    {apart : List (String × Json) → List (String × Json) → Prop}
    (unaffected : Unaffected apart (Patchable.Follows : List (String × Json) → α → α → Prop))
    {good : σ → Prop} (writable : Store.WritableAt (key α) good) :
    Interchanges α (fun first second => apart first.members second.members) good where
  refuses_iff patch distinct store other start start' := by
    rw [refuses_iff_misfit writable start distinct, refuses_iff_misfit writable start' distinct]
  swapped first second distinct distinct' isApart store start := by
    have afterFirst := good_updated writable start distinct
    have afterSecond := good_updated writable start distinct'
    refine ⟨?_, ?_, ?_⟩
    · rw [refuses_iff_misfit writable start distinct,
        refuses_iff_misfit writable afterSecond distinct]
    · rw [refuses_iff_misfit writable afterFirst distinct',
        refuses_iff_misfit writable start distinct']
    · exact get?_updatedAll writable unaffected (.swapped isApart) (by simp [distinct, distinct'])
        (by simp [distinct, distinct']) start
  repeated patch distinct store start :=
    get?_updatedAll writable unaffected (.repeated patch) (by simp [distinct]) (by simp [distinct])
      start

end StoredDocument

open StoredDocument

/-- Updates with independent patches can be interchanged, and repeated, wherever writes of the two
documents succeed, as in stores in files that accept them. Patches of the layout are also
independent when they share sections, as long as both give these as objects of other fields. -/
theorem interchanges_updates :
    (∀ {σ : Type} [Store σ] {good : σ → Prop}, Store.WritableAt (key Preferences) good →
      Store.WritableAt (key SystemConfig) good →
        Interchanges Preferences
          (fun first second => KeysDisjoint first.members second.members) good ∧
        Interchanges SystemConfig
          (fun first second => ApartInSections first.members second.members) good) ∧
    Interchanges Preferences (fun first second => KeysDisjoint first.members second.members)
      (fun store : FileStore => store.Accepts (key Preferences)) ∧
    Interchanges SystemConfig (fun first second => ApartInSections first.members second.members)
      (fun store : FileStore => store.Accepts (key SystemConfig)) := by
  refine ⟨?_, ?_, ?_⟩
  · intro σ _ good preferences config
    exact ⟨interchanges_of_unaffected Preferences.unaffected preferences,
      interchanges_of_unaffected SystemConfig.unaffected config⟩
  · exact interchanges_of_unaffected Preferences.unaffected (FileStore.writableAt _)
  · exact interchanges_of_unaffected SystemConfig.unaffected (FileStore.writableAt _)

/-- Patches that share a section, of which they give different fields. -/
def backupPatch : Json :=
  .object [("commonPaths", .object [("backupDirectory", .string "/hana/backup")]),
    ("networkSettings", .array [.string "localhost"])]

def temporaryPatch : Json :=
  .object [("commonPaths", .object [("tempDirectory", .string "/var/tmp"), ("size", .null)]),
    ("unit", .string "GB")]

/-- The layout after both patches, from the defaults. -/
def sharedConfig : SystemConfig where
  commonPaths := { backupDirectory := "/hana/backup", temporaryDirectory := "/var/tmp" }
  networkSettings := { defaultTestHost := "localhost" }

theorem interchanges_updates_shared :
    IsDistinct backupPatch ∧ IsDistinct temporaryPatch ∧
      ApartInSections backupPatch.members temporaryPatch.members ∧
      Store.get? (updated SystemConfig (updated SystemConfig MemoryStore.empty temporaryPatch)
        backupPatch) (key SystemConfig) = some sharedConfig.encode.compact := by
  have distinct : IsDistinct backupPatch := by
    simp [backupPatch, IsDistinct, AreDistinct, AreDistinctMembers, keys]
  have distinct' : IsDistinct temporaryPatch := by
    simp [temporaryPatch, IsDistinct, AreDistinctMembers, keys]
  have isApart : ApartInSections backupPatch.members temporaryPatch.members := by
    intro name mem mem'
    simp only [backupPatch, temporaryPatch, Json.members, keys, List.map_cons, List.map_nil,
      List.mem_cons, List.not_mem_nil, or_false] at mem mem'
    rcases mem with rfl | rfl
    · refine ⟨_, _, rfl, rfl, _, _, rfl, rfl, ?_⟩
      simp [KeysDisjoint, keys]
    · simp at mem'
  have writable := MemoryStore.writableAt (key SystemConfig)
  obtain ⟨_, config⟩ := interchanges_updates.1 (MemoryStore.writableAt _) writable
  obtain ⟨_, _, same⟩ := config.swapped _ _ distinct distinct' isApart MemoryStore.empty trivial
  have first : (patched (load MemoryStore.empty : SystemConfig) backupPatch).toOption =
      some { sharedConfig with commonPaths := { backupDirectory := "/hana/backup" } } := by
    decide +kernel
  have first := Preferences.ok_of_toOption first
  have second : (patched { sharedConfig with
      commonPaths := { backupDirectory := "/hana/backup" } } temporaryPatch).toOption =
        some sharedConfig := by
    decide +kernel
  have second := Preferences.ok_of_toOption second
  rw [← load_updated writable trivial first] at second
  obtain ⟨_, _, text⟩ := perform_updated writable trivial second
  exact ⟨distinct, distinct', isApart, same.symm.trans text⟩

end CommandSynthesis
