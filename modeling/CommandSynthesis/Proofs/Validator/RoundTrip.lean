import CommandSynthesis.Proofs.Json.Tag
import CommandSynthesis.Validator.Codec

set_option autoImplicit false

/-!
# Validators read back

Every rule but a custom one is read back from what is written for it. No rule that is read is
custom.
-/

namespace CommandSynthesis.Validator

open Json Outline

/-- The rule is a function under a name. -/
def IsCustom (validator : Validator) : Prop :=
  ∃ name check, validator = custom name check

theorem recovers_int64 (depth : Nat) (n : Int64) :
    Decoder.Recovers int64 depth (.number (.integer n.toInt)) n where
  integral := by
    have low := n.le_toInt
    have high := n.toInt_lt
    change (-0x8000000000000000 : Int) ≤ n.toInt ∧ n.toInt ≤ 0xFFFFFFFFFFFFFFFF
    omega
  decodes origin _ := by
    have low := n.le_toInt
    have high := n.toInt_lt
    have bounds : (-0x8000000000000000 : Int) ≤ n.toInt ∧ n.toInt ≤ 0x7FFFFFFFFFFFFFFF := by omega
    simp only [ofJson, int64, Decoder.signed, Decoder.integer]
    rw [if_pos bounds]
    simp [Except.map]

/-- What is written after the kind of a rule decides how the rule is read. -/
theorem recovers_tagged {kind : String} {members : List (String × Json)} {validator : Validator}
    (known : kind ∈ kinds) (absent : "kind" ∉ keys members) (flat : nestingMembers members = 0)
    (integral : HaveIntegral members)
    (contents : decodeContents kind (ofJson (.object members)) = .ok validator) :
    Decoder.Recovers decode 1 (taggedObject kind members) validator where
  integral := ⟨trivial, integral⟩
  decodes origin allows := by
    obtain ⟨inside, enter, allowed⟩ := allows.enter
    rw [taggedObject, decode, Decoder.tagged_ofJson enter known absent (flat ▸ allowed), contents]

section Contents

variable {members : List (String × Json)} (distinct : (keys members).Nodup)

include distinct

theorem decodeContents_numberRange {low high : Int64}
    (least : lookup? "min" members = some (.number (.integer low.toInt)))
    (most : lookup? "max" members = some (.number (.integer high.toInt))) :
    decodeContents "number_range" (ofJson (.object members)) = .ok (numberRange low high) := by
  have least : Record.Gives .aside members "min" int64 low :=
    Record.gives_of_recovers (recovers_int64 0 low) trivial least
  have most : Record.Gives .aside members "max" int64 high :=
    Record.gives_of_recovers (recovers_int64 0 high) trivial most
  simp only [decodeContents, String.reduceEq, if_true, if_false]
  refine Record.read_bind_of_fits rfl distinct ?_ ?_ ?_ _
  · simp only [List.forall_mem_cons]
    exact ⟨least.fits_mandatory, most.fits_mandatory, List.forall_mem_nil _⟩
  · simp only [List.forall_mem_cons]
    exact ⟨fun _ => least.mem_keys, fun _ => most.mem_keys, List.forall_mem_nil _⟩
  · simp only [List.forall_mem_cons]
    rintro values ⟨look₁, look₂, _⟩
    simp only [least.require look₁, most.require look₂, bind, Except.bind]
    rfl

theorem decodeContents_notBlank {message : String}
    (said : lookup? "message" members = some (.string message)) :
    decodeContents "not_blank" (ofJson (.object members)) = .ok (notBlank message) := by
  have said : Record.Gives .aside members "message" Decoder.string message :=
    Record.gives_of_recovers (Decoder.recovers_string 0 message) trivial said
  simp only [decodeContents, String.reduceEq, if_true, if_false]
  refine Record.read_bind_of_fits rfl distinct ?_ ?_ ?_ _
  · simp only [List.forall_mem_cons]
    exact ⟨said.fits_mandatory, List.forall_mem_nil _⟩
  · simp only [List.forall_mem_cons]
    exact ⟨fun _ => said.mem_keys, List.forall_mem_nil _⟩
  · simp only [List.forall_mem_cons]
    rintro values ⟨look, _⟩
    simp only [said.require look, bind, Except.bind]
    rfl

theorem decodeContents_regex {expression message : String}
    (pattern : lookup? "pattern" members = some (.string expression))
    (said : lookup? "message" members = some (.string message)) :
    decodeContents "regex" (ofJson (.object members)) = .ok (regex expression message) := by
  have pattern : Record.Gives .aside members "pattern" Decoder.string expression :=
    Record.gives_of_recovers (Decoder.recovers_string 0 expression) trivial pattern
  have said : Record.Gives .aside members "message" Decoder.string message :=
    Record.gives_of_recovers (Decoder.recovers_string 0 message) trivial said
  simp only [decodeContents, String.reduceEq, if_false]
  refine Record.read_bind_of_fits rfl distinct ?_ ?_ ?_ _
  · simp only [List.forall_mem_cons]
    exact ⟨pattern.fits_mandatory, said.fits_mandatory, List.forall_mem_nil _⟩
  · simp only [List.forall_mem_cons]
    exact ⟨fun _ => pattern.mem_keys, fun _ => said.mem_keys, List.forall_mem_nil _⟩
  · simp only [List.forall_mem_cons]
    rintro values ⟨look₁, look₂, _⟩
    simp only [pattern.require look₁, said.require look₂, bind, Except.bind]
    rfl

end Contents

/-- The rule is recovered from what is written for it. -/
def IsWritten (validator : Validator) : Prop :=
  ∃ json, validator.encode = .ok json ∧ json ≠ .null ∧ Decoder.Recovers decode 1 json validator

theorem isWritten_of_tagged {kind : String} {members : List (String × Json)} {validator : Validator}
    (encoded : validator.encode = .ok (taggedObject kind members))
    (recovers : Decoder.Recovers decode 1 (taggedObject kind members) validator) :
    validator.IsWritten :=
  ⟨_, encoded, nofun, recovers⟩

/-- Every rule that is not custom has a written form, from which it is recovered. -/
theorem isWritten_of_not_isCustom {validator : Validator} (other : ¬ validator.IsCustom) :
    validator.IsWritten := by
  have bare {kind : String} {validator : Validator} (known : kind ∈ kinds)
      (contents : decodeContents kind (ofJson (.object [])) = .ok validator) :
      Decoder.Recovers decode 1 (taggedObject kind []) validator :=
    recovers_tagged known List.not_mem_nil rfl trivial contents
  cases validator with
  | custom name check => exact absurd ⟨name, check, rfl⟩ other
  | path => exact isWritten_of_tagged rfl (bare (by decide) rfl)
  | pattern => exact isWritten_of_tagged rfl (bare (by decide) rfl)
  | identifier => exact isWritten_of_tagged rfl (bare (by decide) rfl)
  | keyword => exact isWritten_of_tagged rfl (bare (by decide) rfl)
  | numberRange low high =>
    refine isWritten_of_tagged rfl (recovers_tagged (by decide) (by simp [keys]) rfl ?_ ?_)
    · exact ⟨(recovers_int64 0 low).integral, (recovers_int64 0 high).integral, trivial⟩
    · exact decodeContents_numberRange (by simp [keys]) rfl rfl
  | notBlank message =>
    refine isWritten_of_tagged rfl (recovers_tagged (by decide) (by simp [keys]) rfl ?_ ?_)
    · exact ⟨trivial, trivial⟩
    · exact decodeContents_notBlank (by simp [keys]) rfl
  | regex expression message =>
    refine isWritten_of_tagged rfl (recovers_tagged (by decide) (by simp [keys]) rfl ?_ ?_)
    · exact ⟨trivial, trivial, trivial⟩
    · exact decodeContents_regex (by simp [keys]) rfl rfl

theorem encode_of_isCustom {validator : Validator} (isCustom : validator.IsCustom) :
    validator.encode = .error .customValidator := by
  obtain ⟨name, check, rfl⟩ := isCustom
  rfl

/-! ## Rules that are read -/

theorem not_isCustom_of_bare {validator decoded : Validator} {contents : Outline}
    (other : ¬ validator.IsCustom) (done : bare validator contents = .ok decoded) :
    ¬ decoded.IsCustom := by
  unfold bare at done
  split at done
  · cases done
  · cases done
    exact other

theorem not_isCustom_of_decodeContents {kind : String} {contents : Outline} {validator : Validator}
    (decoded : decodeContents kind contents = .ok validator) : ¬ validator.IsCustom := by
  unfold decodeContents at decoded
  split at decoded
  · exact not_isCustom_of_bare (by simp [IsCustom]) decoded
  split at decoded
  · exact not_isCustom_of_bare (by simp [IsCustom]) decoded
  split at decoded
  · simp only [bind_eq_ok_iff] at decoded
    obtain ⟨_, _, _, _, _, _, same⟩ := decoded
    cases same
    nofun
  split at decoded
  · exact not_isCustom_of_bare (by simp [IsCustom]) decoded
  split at decoded
  · exact not_isCustom_of_bare (by simp [IsCustom]) decoded
  split at decoded
  · simp only [bind_eq_ok_iff] at decoded
    obtain ⟨_, _, _, _, same⟩ := decoded
    cases same
    nofun
  · simp only [bind_eq_ok_iff] at decoded
    obtain ⟨_, _, _, _, _, _, same⟩ := decoded
    cases same
    nofun

theorem not_isCustom_of_decode {origin : Origin} {value : Outline} {validator : Validator}
    (decoded : decode origin value = .ok validator) : ¬ validator.IsCustom := by
  unfold decode Decoder.tagged at decoded
  split at decoded
  · simp only [bind_eq_ok_iff] at decoded
    obtain ⟨_, _, ⟨found, _⟩, _, _, _, decoded⟩ := decoded
    cases found with
    | none => cases decoded
    | some kind => exact not_isCustom_of_decodeContents decoded
  · simp only [bind_eq_ok_iff] at decoded
    obtain ⟨_, _, _, _, failed⟩ := decoded
    cases failed
  · simp only [bind_eq_ok_iff] at decoded
    obtain ⟨_, _, _, _, _, _, _, _, decoded⟩ := decoded
    exact not_isCustom_of_decodeContents decoded
  · cases decoded

end CommandSynthesis.Validator
