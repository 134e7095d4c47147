import CommandSynthesis.Preferences.Documents
import CommandSynthesis.Proofs.Synthesis.RoundTrip

set_option autoImplicit false

/-!
# Documents read back

Both stored documents are read back from the text that is written for them, and their values are
also what comes of laying them, as a whole, over any other document of their kind.
-/

namespace CommandSynthesis

open Json

theorem makes_decodeUInt64 (expected : String) (depth : Nat) (n : UInt64) :
    Decoder.Makes (decodeUInt64 expected) depth (encodeUInt64 n) n := by
  intro origin whole _ holds
  cases holds
  have small := n.toNat_lt
  have bounds : (0 : Int) ≤ n.toNat ∧ (n.toNat : Int) ≤ 0xFFFFFFFFFFFFFFFF := by omega
  simp only [encodeUInt64, Outline.ofJson, decodeUInt64, Decoder.natural, Decoder.integer]
  rw [if_pos bounds]
  simp [Except.map]

theorem isIntegral_encodeUInt64 (n : UInt64) : IsIntegral (encodeUInt64 n) := by
  have small := n.toNat_lt
  change (-0x8000000000000000 : Int) ≤ n.toNat ∧ (n.toNat : Int) ≤ 0xFFFFFFFFFFFFFFFF
  omega

theorem Theme.makes_decode (depth : Nat) (theme : Theme) :
    Decoder.Makes decode depth theme.encode theme := by
  intro origin whole _ holds
  cases holds
  cases theme <;> cases origin <;> rfl

namespace Preferences

theorem makes_decode (preferences : Preferences) :
    Decoder.Makes decode 2 preferences.encode preferences := by
  refine Decoder.makes_record _ (by simp [fields, Field.optional]) ?_
  intro origin others allows holds
  obtain ⟨sid, number, favorites, theme, limit, warnings, saving, _⟩ := holds
  have sid := (Decoder.makes_string 1 _).gives allows sid
  have number := (Decoder.makes_string 1 _).gives allows number
  have favorites := (Decoder.makes_ofStrings 0 _).gives allows favorites
  have theme := (Theme.makes_decode 1 _).gives allows theme
  have limit := (makes_decodeUInt64 "usize" 1 _).gives allows limit
  have warnings := (Decoder.makes_bool 1 _).gives allows warnings
  have saving := (Decoder.makes_bool 1 _).gives allows saving
  simp only [fields, List.forall_mem_cons]
  refine ⟨⟨sid.fits_optional, number.fits_optional, favorites.fits_optional, theme.fits_optional,
    limit.fits_optional, warnings.fits_optional, saving.fits_optional, List.forall_mem_nil _⟩, ?_⟩
  rintro ⟨_, values⟩ rfl ⟨look₁, look₂, look₃, look₄, look₅, look₆, look₇, _⟩
  simp only [sid.get look₁, number.get look₂, favorites.get look₃, theme.get look₄,
    limit.get look₅, warnings.get look₆, saving.get look₇, bind, Except.bind, pure, Except.pure]

theorem isIntegral_encode (preferences : Preferences) : IsIntegral preferences.encode :=
  ⟨trivial, trivial, isIntegral_ofStrings _, trivial, isIntegral_encodeUInt64 _, trivial, trivial,
    trivial⟩

theorem isDistinct_encode (preferences : Preferences) : IsDistinct preferences.encode :=
  ⟨by simp [keys], trivial, trivial, isDistinct_ofStrings _, trivial, trivial, trivial, trivial,
    trivial⟩

end Preferences

theorem CommonPaths.makes_decode (paths : CommonPaths) :
    Decoder.Makes decode 1 paths.encode paths := by
  refine Decoder.makes_record _ (by simp [fields, Field.optional]) ?_
  intro origin others allows holds
  obtain ⟨install, logs, backup, temporary, _⟩ := holds
  have install := (Decoder.makes_string 0 _).gives allows install
  have logs := (Decoder.makes_string 0 _).gives allows logs
  have backup := (Decoder.makes_string 0 _).gives allows backup
  have temporary := (Decoder.makes_string 0 _).gives allows temporary
  simp only [fields, List.forall_mem_cons]
  refine ⟨⟨install.fits_optional, logs.fits_optional, backup.fits_optional,
    temporary.fits_optional, List.forall_mem_nil _⟩, ?_⟩
  rintro ⟨_, values⟩ rfl ⟨look₁, look₂, look₃, look₄, _⟩
  simp only [install.get look₁, logs.get look₂, backup.get look₃, temporary.get look₄, bind,
    Except.bind, pure, Except.pure]

theorem NetworkSettings.makes_decode (settings : NetworkSettings) :
    Decoder.Makes decode 1 settings.encode settings := by
  refine Decoder.makes_record _ (by simp [fields, Field.optional]) ?_
  intro origin others allows holds
  obtain ⟨host, timeout, _⟩ := holds
  have host := (Decoder.makes_string 0 _).gives allows host
  have timeout := (makes_decodeUInt64 "u64" 0 _).gives allows timeout
  simp only [fields, List.forall_mem_cons]
  refine ⟨⟨host.fits_optional, timeout.fits_optional, List.forall_mem_nil _⟩, ?_⟩
  rintro ⟨_, values⟩ rfl ⟨look₁, look₂, _⟩
  simp only [host.get look₁, timeout.get look₂, bind, Except.bind, pure, Except.pure]

theorem SecuritySettings.makes_decode (settings : SecuritySettings) :
    Decoder.Makes decode 1 settings.encode settings := by
  refine Decoder.makes_record _ (by simp [fields, Field.optional]) ?_
  intro origin others allows holds
  obtain ⟨danger, confirmation, _⟩ := holds
  have danger := (Decoder.makes_bool 0 _).gives allows danger
  have confirmation := (Decoder.makes_bool 0 _).gives allows confirmation
  simp only [fields, List.forall_mem_cons]
  refine ⟨⟨danger.fits_optional, confirmation.fits_optional, List.forall_mem_nil _⟩, ?_⟩
  rintro ⟨_, values⟩ rfl ⟨look₁, look₂, _⟩
  simp only [danger.get look₁, confirmation.get look₂, bind, Except.bind, pure, Except.pure]

namespace SystemConfig

theorem makes_decode (config : SystemConfig) :
    Decoder.Makes decode 2 config.encode config := by
  refine Decoder.makes_record _ (by simp [fields, Field.optional]) ?_
  intro origin others allows holds
  obtain ⟨paths, network, security, _⟩ := holds
  have paths := (CommonPaths.makes_decode _).gives allows paths
  have network := (NetworkSettings.makes_decode _).gives allows network
  have security := (SecuritySettings.makes_decode _).gives allows security
  simp only [fields, List.forall_mem_cons]
  refine ⟨⟨paths.fits_optional, network.fits_optional, security.fits_optional,
    List.forall_mem_nil _⟩, ?_⟩
  rintro ⟨_, values⟩ rfl ⟨look₁, look₂, look₃, _⟩
  simp only [paths.get look₁, network.get look₂, security.get look₃, bind, Except.bind, pure,
    Except.pure]

theorem isIntegral_encode (config : SystemConfig) : IsIntegral config.encode :=
  ⟨⟨trivial, trivial, trivial, trivial, trivial⟩, ⟨trivial, isIntegral_encodeUInt64 _, trivial⟩,
    ⟨trivial, trivial, trivial⟩, trivial⟩

theorem isDistinct_encode (config : SystemConfig) : IsDistinct config.encode :=
  ⟨by simp [keys], ⟨by simp [keys], trivial, trivial, trivial, trivial, trivial⟩,
    ⟨by simp [keys], trivial, trivial, trivial⟩, ⟨by simp [keys], trivial, trivial, trivial⟩,
    trivial⟩

end SystemConfig

namespace StoredDocument

/-- Every value is made of whatever holds what is written for it, and that is an object with
integers and distinct keys, in which at most two brackets stand inside one another. -/
class IsFaithful (α : Type) [StoredDocument α] : Prop where
  makes : ∀ value : α, Decoder.Makes decode 2 (encode value) value
  object : ∀ value : α, (encode value).isObject = true
  integral : ∀ value : α, IsIntegral (encode value)
  distinct : ∀ value : α, IsDistinct (encode value)
  shallow : ∀ value : α, (encode value).nesting ≤ 2

instance : IsFaithful Preferences where
  makes := Preferences.makes_decode
  object _ := rfl
  integral := Preferences.isIntegral_encode
  distinct := Preferences.isDistinct_encode
  shallow preferences := by
    change nestingMembers (_ : List (String × Json)) + 1 ≤ 2
    simp only [nestingMembers, nesting, Theme.encode, encodeUInt64, nesting_ofStrings]
    decide

instance : IsFaithful SystemConfig where
  makes := SystemConfig.makes_decode
  object _ := rfl
  integral := SystemConfig.isIntegral_encode
  distinct := SystemConfig.isDistinct_encode
  shallow config := by
    exact Nat.le_refl 2

variable {α : Type} [StoredDocument α] [IsFaithful α]

theorem ofText_encode (value : α) : ofText (some (encode value).compact) = value := by
  have read := (IsFaithful.makes value).ofText_compact (by decide) (IsFaithful.integral value)
    (IsFaithful.distinct value)
  simp only [ofText, read]

/-- A document that is laid over another one of its kind as a whole replaces it. -/
theorem patched_encode (current value : α) :
    patched current (encode value).sorted = .ok value := by
  have holds := holds_overlay (IsFaithful.distinct value) (isOrdered_sorted (encode current))
  have made := IsFaithful.makes value .value _ trivial holds
  unfold patched
  rw [isObject_sorted, if_pos (IsFaithful.object value)]
  simp only [Decoder.ofValue, made]
  rfl

end StoredDocument

end CommandSynthesis
