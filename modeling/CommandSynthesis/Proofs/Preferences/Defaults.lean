import CommandSynthesis.Proofs.Json.Agreement
import CommandSynthesis.Proofs.Preferences.Patch
import CommandSynthesis.Store.Memory

set_option autoImplicit false

/-!
# Documents over the defaults

A stored value that is only a part of a document counts as the value laid over the defaults, in its
sections as at its top. Nothing is laid over anything when a document is read: the decoders fill in
what is missing, and this comes to the same, also for values that are no documents.
-/

namespace CommandSynthesis

open Json Outline

/-! ## Decoders of documents on texts -/

theorem agrees_decodeUInt64 (expected : String) (depth : Nat) :
    (decodeUInt64 expected).Agrees depth := by
  intro origin value allows
  have inStep := Decoder.agrees_natural expected depth origin value allows
  exact inStep.map fun same => congrArg UInt64.ofNat same

theorem Preferences.agrees_decode : Decoder.Agrees decode 2 := by
  have texts := (Decoder.agrees_string 0).list
  have theme : Theme.decode.Agrees 1 := Decoder.agrees_variant Theme.table 0
  apply Decoder.agrees_record "struct UserPreferences"
  · simp only [fields, List.forall_mem_cons]
    exact ⟨(Decoder.agrees_string 1).optional _, (Decoder.agrees_string 1).optional _,
      texts.optional _, theme.optional _, (agrees_decodeUInt64 _ 1).optional _,
      (Decoder.agrees_bool 1).optional _, (Decoder.agrees_bool 1).optional _,
      List.forall_mem_nil _⟩
  · intro first second rereads
    apply (rereads.get (Decoder.agrees_string 1) _ _).bind_eq
    intro sid
    apply (rereads.get (Decoder.agrees_string 1) _ _).bind_eq
    intro number
    apply (rereads.get texts _ _).bind_eq
    intro favorites
    apply (rereads.get theme _ _).bind_eq
    intro theme
    apply (rereads.get (agrees_decodeUInt64 _ 1) _ _).bind_eq
    intro limit
    apply (rereads.get (Decoder.agrees_bool 1) _ _).bind_eq
    intro warnings
    apply (rereads.get (Decoder.agrees_bool 1) _ _).bind_eq
    intro saving
    exact .done rfl

theorem CommonPaths.agrees_decode : Decoder.Agrees decode 1 := by
  have text := Decoder.agrees_string 0
  apply Decoder.agrees_record "struct CommonPaths"
  · simp only [fields, List.forall_mem_cons]
    exact ⟨text.optional _, text.optional _, text.optional _, text.optional _,
      List.forall_mem_nil _⟩
  · intro first second rereads
    apply (rereads.get text _ _).bind_eq
    intro install
    apply (rereads.get text _ _).bind_eq
    intro logs
    apply (rereads.get text _ _).bind_eq
    intro backup
    apply (rereads.get text _ _).bind_eq
    intro temporary
    exact .done rfl

theorem NetworkSettings.agrees_decode : Decoder.Agrees decode 1 := by
  have text := Decoder.agrees_string 0
  have count := agrees_decodeUInt64 "u64" 0
  apply Decoder.agrees_record "struct NetworkSettings"
  · simp only [fields, List.forall_mem_cons]
    exact ⟨text.optional _, count.optional _, List.forall_mem_nil _⟩
  · intro first second rereads
    apply (rereads.get text _ _).bind_eq
    intro host
    apply (rereads.get count _ _).bind_eq
    intro timeout
    exact .done rfl

theorem SecuritySettings.agrees_decode : Decoder.Agrees decode 1 := by
  have flag := Decoder.agrees_bool 0
  apply Decoder.agrees_record "struct SecuritySettings"
  · simp only [fields, List.forall_mem_cons]
    exact ⟨flag.optional _, flag.optional _, List.forall_mem_nil _⟩
  · intro first second rereads
    apply (rereads.get flag _ _).bind_eq
    intro danger
    apply (rereads.get flag _ _).bind_eq
    intro confirmation
    exact .done rfl

theorem SystemConfig.agrees_decode : Decoder.Agrees decode 2 := by
  apply Decoder.agrees_record "struct SystemConfig"
  · simp only [fields, List.forall_mem_cons]
    exact ⟨CommonPaths.agrees_decode.optional _, NetworkSettings.agrees_decode.optional _,
      SecuritySettings.agrees_decode.optional _, List.forall_mem_nil _⟩
  · intro first second rereads
    apply (rereads.get CommonPaths.agrees_decode _ _).bind_eq
    intro paths
    apply (rereads.get NetworkSettings.agrees_decode _ _).bind_eq
    intro network
    apply (rereads.get SecuritySettings.agrees_decode _ _).bind_eq
    intro security
    exact .done rfl

/-! ## Values over the defaults -/

open PatchRule

/-- Of the default section, what a value is decoded to is what it makes as a patch. -/
theorem takes_default_iff {α : Type} {decoder : Decoder α}
    {follows : List (String × Json) → α → α → Prop} {name : String} {patch : List (String × Json)}
    {default new : α}
    (decoded : ∀ {members : List (String × Json)}, (keys members).Nodup →
      (decoder.ofValue (.object members) = .ok new ↔ follows members default new))
    (distinct : AreDistinctMembers patch) :
    Takes (whole decoder) name patch default new ↔
      Takes (within decoder follows) name patch default new := by
  unfold Takes
  cases found : lookup? name patch with
  | none => exact Iff.rfl
  | some value =>
    have given := isDistinct_of_lookup? distinct found
    cases value with
    | object members => exact decoded given.1
    | _ => exact Iff.rfl

namespace StoredDocument

/-- A kind of document whose decoder fills in the defaults. -/
class FillsDefaults (α : Type) [StoredDocument α] : Prop where
  agrees : Decoder.Agrees (decode : Decoder α) 2
  filled : ∀ {patch : List (String × Json)} {new : α}, IsDistinct (.object patch) →
    (decode.ofValue (overlay (encode (default : α)).sorted (.object patch)) = .ok new ↔
      decode.ofValue (.object patch) = .ok new)

instance : FillsDefaults Preferences where
  agrees := Preferences.agrees_decode
  filled distinct :=
    (Preferences.overlaid_iff distinct).trans (Preferences.ofValue_object_iff distinct.1).symm

instance : FillsDefaults SystemConfig where
  agrees := SystemConfig.agrees_decode
  filled {patch new} distinct := by
    refine (SystemConfig.overlaid_iff distinct).trans (Iff.symm ?_)
    refine (SystemConfig.ofValue_object_iff distinct.1).trans ?_
    exact and_congr (takes_default_iff CommonPaths.ofValue_object_iff distinct.2)
      (and_congr (takes_default_iff NetworkSettings.ofValue_object_iff distinct.2)
        (takes_default_iff SecuritySettings.ofValue_object_iff distinct.2))

variable {α : Type} [StoredDocument α]

/-- The document that the defaults with a value laid over them are; the defaults when they are
none. -/
def overDefaults (α : Type) [StoredDocument α] (value : Json) : α :=
  match (decode : Decoder α).ofValue (overlay (encode (default : α)).sorted value) with
  | .ok merged => merged
  | .error _ => default

variable [FillsDefaults α]

theorem ofValue_overlay_default_iff {value : Json} (distinct : IsDistinct value) {new : α} :
    decode.ofValue (overlay (encode (default : α)).sorted value) = .ok new ↔
      decode.ofValue value = .ok new := by
  rcases value.isObject_eq_false_or_exists with other | ⟨members, rfl⟩
  · rw [overlay_of_isObject (.inr other)]
  · exact FillsDefaults.filled distinct

/-- The compact text of a value counts as the value laid over the defaults. -/
theorem ofText_compact {value : Json} (distinct : IsDistinct value) :
    ofText (some value.compact) = overDefaults α value := by
  have inStep := FillsDefaults.agrees (α := α) (.text maxDepth) value (by decide : 2 ≤ maxDepth)
  have same (new : α) : (decode : Decoder α).ofText value.compact = .ok new ↔
      decode.ofValue (overlay (encode (default : α)).sorted value) = .ok new := by
    rw [Decoder.ofText_of_spells (spells_compact value), inStep.ok_iff,
      ofValue_overlay_default_iff distinct]
  unfold overDefaults
  simp only [ofText]
  cases merged : (decode : Decoder α).ofValue (overlay (encode (default : α)).sorted value) with
  | ok new => rw [(same new).2 merged]
  | error misfit =>
    cases read : (decode : Decoder α).ofText value.compact with
    | error other => rfl
    | ok new => cases merged.symm.trans ((same new).1 read)

end StoredDocument

open StoredDocument

/-- A document whose text is that of a value is what the value makes of the defaults. Members that
are missing at the top or in a section have their defaults, and a value that makes no document
counts as none. -/
theorem load_eq_overDefaults {σ : Type} [Store σ] (store : σ) {value : Json}
    (distinct : IsDistinct value) :
    (Store.get? store (key Preferences) = some value.compact →
      load store = overDefaults Preferences value) ∧
    (Store.get? store (key SystemConfig) = some value.compact →
      load store = overDefaults SystemConfig value) := by
  constructor
  · intro stored
    rw [load, stored]
    exact ofText_compact distinct
  · intro stored
    rw [load, stored]
    exact ofText_compact distinct

/-- A value that is a part of both documents: a section with some of its fields, one that is the
list of its first, and a member that is no field and holds one half. -/
def partialValue : Json :=
  .object [("defaultSID", .string "PRD"),
    ("commonPaths", .object [("logDirectory", .string "/srv/log")]),
    ("networkSettings", .array [.string "localhost"]),
    ("future", .number (.real ⟨false, 0x10000000000000, -53⟩))]

/-- The two documents are stored as the same part. -/
def partialStore : MemoryStore :=
  ⟨[(key Preferences, partialValue.compact), (key SystemConfig, partialValue.compact)]⟩

theorem load_partialStore :
    IsDistinct partialValue ∧
      (load partialStore : Preferences) = { defaultSid := "PRD" } ∧
      (load partialStore : SystemConfig) =
        { commonPaths := { logDirectory := "/srv/log" },
          networkSettings := { defaultTestHost := "localhost" } } := by
  have distinct : IsDistinct partialValue := by
    simp [partialValue, IsDistinct, AreDistinct, AreDistinctMembers, keys]
  obtain ⟨preferences, config⟩ := load_eq_overDefaults partialStore distinct
  refine ⟨distinct, ?_, ?_⟩
  · rw [preferences rfl]
    decide +kernel
  · rw [config rfl]
    decide +kernel

end CommandSynthesis
