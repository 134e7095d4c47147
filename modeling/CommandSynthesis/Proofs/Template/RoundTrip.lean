import CommandSynthesis.Proofs.Synthesis.RoundTrip
import CommandSynthesis.Proofs.Validator.RoundTrip
import CommandSynthesis.Template.Codec

set_option autoImplicit false

/-!
# Templates read back

A template is read back as it was from what is written for it, unless one of its inputs has a custom
rule; such a template cannot be written. What is left out when it has nothing to say is read as the
default of its field.
-/

namespace CommandSynthesis

open Json Outline

/-! ## Members that may be left out -/

namespace Json

/-- The members of the slots that are filled. -/
def ofSlots (slots : List (String × Option Json)) : List (String × Json) :=
  slots.flatMap fun slot => optionalMember slot.1 slot.2

theorem ofSlots_cons (name : String) (slot : Option Json) (slots : List (String × Option Json)) :
    ofSlots ((name, slot) :: slots) = optionalMember name slot ++ ofSlots slots :=
  List.flatMap_cons

/-- The keys are those of the slots, some of them left out. -/
theorem keys_ofSlots_sublist (slots : List (String × Option Json)) :
    (keys (ofSlots slots)).Sublist (slots.map Prod.fst) := by
  induction slots with
  | nil => exact .slnil
  | cons slot slots ih =>
    obtain ⟨name, slot⟩ := slot
    rw [ofSlots_cons]
    cases slot with
    | none => exact ih.cons name
    | some value => exact ih.cons_cons name

theorem nodup_keys_ofSlots {slots : List (String × Option Json)}
    (distinct : (slots.map Prod.fst).Nodup) : (keys (ofSlots slots)).Nodup :=
  distinct.sublist (keys_ofSlots_sublist slots)

theorem lookup?_ofSlots {slots : List (String × Option Json)}
    (distinct : (slots.map Prod.fst).Nodup) :
    ∀ slot ∈ slots, lookup? slot.1 (ofSlots slots) = slot.2 := by
  induction slots with
  | nil => exact List.forall_mem_nil _
  | cons first slots ih =>
    obtain ⟨name, value⟩ := first
    obtain ⟨fresh, others⟩ := List.nodup_cons.1 distinct
    have missing : lookup? name (ofSlots slots) = none :=
      lookup?_eq_none_iff.2 fun there => fresh ((keys_ofSlots_sublist slots).subset there)
    rw [List.forall_mem_cons, ofSlots_cons]
    refine ⟨?_, fun slot member => ?_⟩
    · cases value with
      | none => exact missing
      | some value => exact if_pos rfl
    · have other : name ≠ slot.1 := by
        rintro rfl
        exact fresh (List.mem_map.2 ⟨slot, member, rfl⟩)
      cases value with
      | none => exact ih others slot member
      | some value => exact (if_neg other).trans (ih others slot member)

theorem haveIntegral_ofSlots {slots : List (String × Option Json)}
    (integral : ∀ slot ∈ slots, ∀ value, slot.2 = some value → IsIntegral value) :
    HaveIntegral (ofSlots slots) := by
  induction slots with
  | nil => trivial
  | cons slot slots ih =>
    obtain ⟨name, slot⟩ := slot
    obtain ⟨first, others⟩ := List.forall_mem_cons.1 integral
    rw [ofSlots_cons]
    cases slot with
    | none => exact ih others
    | some value => exact ⟨first value rfl, ih others⟩

/-- The slot of texts, empty when there are none. -/
def textsSlot (texts : List String) : Option Json :=
  if texts.isEmpty then none else some (.ofStrings texts)

theorem textsMember_eq (name : String) (texts : List String) :
    textsMember name texts = optionalMember name (textsSlot texts) := by
  cases texts <;> rfl

end Json

namespace Decoder

theorem RecoversOr.integral {α : Type} {decoder : Decoder α} {depth : Nat} {slot : Option Json}
    {default thing : α} (recovers : decoder.RecoversOr depth slot default thing) :
    ∀ value, slot = some value → IsIntegral value := by
  rintro value rfl
  exact Recovers.integral recovers

theorem recovers_ofStrings (depth : Nat) (texts : List String) :
    Recovers (list Decoder.string) (depth + 1) (ofStrings texts) texts :=
  (makes_ofStrings depth texts).recovers (isIntegral_ofStrings texts) (isDistinct_ofStrings texts)

theorem recoversOr_texts (depth : Nat) (texts : List String) :
    RecoversOr (list Decoder.string) (depth + 1) (textsSlot texts) [] texts := by
  cases texts with
  | nil => exact (rfl : [] = [])
  | cons text texts => exact recovers_ofStrings depth (text :: texts)

end Decoder

theorem InputKind.recovers_decode (depth : Nat) (kind : InputKind) :
    Decoder.Recovers decode depth kind.encode kind where
  integral := trivial
  decodes origin _ := by cases kind <;> cases origin <;> rfl

theorem DangerLevel.recovers_decode (depth : Nat) (level : DangerLevel) :
    Decoder.Recovers decode depth level.encode level where
  integral := trivial
  decodes origin _ := by cases level <;> cases origin <;> rfl

/-! ## Inputs -/

namespace Input

def HasCustomRule (input : Input) : Prop :=
  ∃ validator, input.validator = some validator ∧ validator.IsCustom

/-- What is written for an input, member by member, the form of its rule being given. -/
def slots (input : Input) (validator : Option Json) : List (String × Option Json) :=
  [("name", some (.string input.name)), ("label", some (.string input.label)),
    ("kind", some input.kind.encode), ("default_value", input.defaultValue.map .string),
    ("required", some (.bool input.required)), ("choices", textsSlot input.choices),
    ("validator", validator), ("placeholder", input.placeholder.map .string),
    ("help_text", input.helpText.map .string)]

theorem encode_eq {input : Input} {validator : Option Json}
    (encoded : encodeValidator input.validator = .ok validator) :
    input.encode = .ok (.object (ofSlots (input.slots validator))) := by
  simp only [encode, encoded, bind, Except.bind, textsMember_eq]
  simp [slots, ofSlots, optionalMember, pure, Except.pure]

theorem recoversOr_optionalText (depth : Nat) (text : Option String) :
    Decoder.RecoversOr optionalText depth (text.map .string) none text := by
  cases text with
  | none => exact (rfl : none = none)
  | some text => exact (Decoder.recovers_string depth text).nullable nofun

theorem recoversOr_validator {input : Input} (plain : ¬ input.HasCustomRule) :
    ∃ slot, encodeValidator input.validator = .ok slot ∧
      Decoder.RecoversOr (Decoder.nullable Validator.decode) 1 slot none input.validator := by
  cases given : input.validator with
  | none => exact ⟨none, rfl, (rfl : none = none)⟩
  | some validator =>
    have other : ¬ validator.IsCustom := fun isCustom => plain ⟨validator, given, isCustom⟩
    obtain ⟨json, encoded, filled, recovers⟩ := Validator.isWritten_of_not_isCustom other
    refine ⟨some json, ?_, recovers.nullable filled⟩
    rw [encodeValidator, encoded]
    rfl

theorem encode_of_hasCustomRule {input : Input} (custom : input.HasCustomRule) :
    input.encode = .error .customValidator := by
  obtain ⟨validator, given, isCustom⟩ := custom
  simp only [encode, given, encodeValidator, Validator.encode_of_isCustom isCustom, Except.map,
    bind, Except.bind]

/-- An input is recovered from what is written for it. -/
theorem recovers_decode {input : Input} {validator : Option Json}
    (rule : Decoder.RecoversOr (Decoder.nullable Validator.decode) 1 validator none
      input.validator) :
    Decoder.Recovers decode 2 (.object (ofSlots (input.slots validator))) input := by
  have distinct : ((input.slots validator).map Prod.fst).Nodup := by simp [slots]
  have look := lookup?_ofSlots distinct
  simp only [slots, List.forall_mem_cons] at look
  obtain ⟨name, label, kind, default, required, choices, found, placeholder, help, _⟩ := look
  have default' := recoversOr_optionalText 1 input.defaultValue
  have choices' := Decoder.recoversOr_texts 0 input.choices
  have placeholder' := recoversOr_optionalText 1 input.placeholder
  have help' := recoversOr_optionalText 1 input.helpText
  constructor
  · apply haveIntegral_ofSlots
    simp only [slots, List.forall_mem_cons]
    refine ⟨?_, ?_, ?_, default'.integral, ?_, choices'.integral, rule.integral,
      placeholder'.integral, help'.integral, List.forall_mem_nil _⟩
    all_goals
      intro value same
      cases same
      trivial
  · intro origin allows
    obtain ⟨inside, enter, allows⟩ := allows.enter
    have name := Record.gives_of_recovers (Decoder.recovers_string 1 _) allows name
    have label := Record.gives_of_recovers (Decoder.recovers_string 1 _) allows label
    have kind := Record.gives_of_recovers (InputKind.recovers_decode 1 _) allows kind
    have default := Record.givesOr_of_recoversOr default' allows default
    have required := Record.gives_of_recovers (Decoder.recovers_bool 1 _) allows required
    have choices := Record.givesOr_of_recoversOr choices' allows choices
    have rule := Record.givesOr_of_recoversOr rule allows found
    have placeholder := Record.givesOr_of_recoversOr placeholder' allows placeholder
    have help := Record.givesOr_of_recoversOr help' allows help
    refine Record.read_bind_of_fits enter (nodup_keys_ofSlots distinct) ?_ ?_ ?_ _
    · simp only [fields, List.forall_mem_cons]
      exact ⟨name.fits_mandatory, label.fits_mandatory, kind.fits_optional, default.fits,
        required.fits_optional, choices.fits, rule.fits, placeholder.fits, help.fits,
        List.forall_mem_nil _⟩
    · simp only [fields, List.forall_mem_cons]
      exact ⟨fun _ => name.mem_keys, fun _ => label.mem_keys, nofun, nofun, nofun, nofun, nofun,
        nofun, nofun, List.forall_mem_nil _⟩
    · simp only [fields, List.forall_mem_cons]
      rintro values ⟨look₁, look₂, look₃, look₄, look₅, look₆, look₇, look₈, look₉, _⟩
      simp only [name.require look₁, label.require look₂, kind.get look₃, default.get look₄,
        required.get look₅, choices.get look₆, rule.get look₇, placeholder.get look₈,
        help.get look₉, bind, Except.bind]
      rfl

/-- Every input without a custom rule has a written form, from which it is recovered. -/
theorem exists_recovers {input : Input} (plain : ¬ input.HasCustomRule) :
    ∃ json, input.encode = .ok json ∧ Decoder.Recovers decode 2 json input := by
  obtain ⟨slot, encoded, rule⟩ := recoversOr_validator plain
  exact ⟨_, encode_eq encoded, recovers_decode rule⟩

theorem exists_recovers_all {inputs : List Input}
    (plain : ∀ input ∈ inputs, ¬ input.HasCustomRule) :
    ∃ items, inputs.mapM encode = .ok items ∧
      List.Forall₂ (Decoder.Recovers decode 2) items inputs := by
  induction inputs with
  | nil => exact ⟨[], rfl, .nil⟩
  | cons input inputs ih =>
    obtain ⟨first, others⟩ := List.forall_mem_cons.1 plain
    obtain ⟨item, encoded, recovers⟩ := exists_recovers first
    obtain ⟨items, encodedRest, recoversRest⟩ := ih others
    refine ⟨item :: items, ?_, .cons recovers recoversRest⟩
    simp only [List.mapM_cons, encoded, encodedRest, bind, Except.bind]
    rfl

theorem mapM_encode_of_hasCustomRule {inputs : List Input}
    (custom : ∃ input ∈ inputs, input.HasCustomRule) :
    inputs.mapM encode = .error .customValidator := by
  induction inputs with
  | nil =>
    obtain ⟨_, member, _⟩ := custom
    cases member
  | cons input inputs ih =>
    rw [List.mapM_cons]
    by_cases first : input.HasCustomRule
    · rw [encode_of_hasCustomRule first]
      rfl
    · obtain ⟨_, encoded, _⟩ := exists_recovers first
      have later : ∃ other ∈ inputs, other.HasCustomRule := by
        obtain ⟨other, member, custom⟩ := custom
        obtain rfl | member := List.mem_cons.1 member
        · exact absurd custom first
        · exact ⟨other, member, custom⟩
      rw [encoded, ih later]
      rfl

/-- No rule of an input that is read is custom. -/
theorem yields_decode : Decoder.Yields decode fun input => ¬ input.HasCustomRule := by
  rintro origin value input decoded ⟨validator, given, isCustom⟩
  simp only [decode, bind_eq_ok_iff] at decoded
  obtain ⟨record, _, _, _, _, _, _, _, _, _, _, _, _, _, rule, got, _, _, _, _, same⟩ := decoded
  cases same
  have yields : Decoder.Yields Validator.decode fun validator => ¬ validator.IsCustom :=
    fun _ _ _ => Validator.not_isCustom_of_decode
  have none_plain : ∀ inner, none = some inner → ¬ Validator.IsCustom inner := nofun
  have rule_plain := yields.nullable.get none_plain got
  exact rule_plain validator given isCustom

end Input

/-! ## Templates -/

namespace Template

/-- What is written for a template, member by member, what is written for its inputs being given. -/
def slots (template : Template) (inputs : List Json) : List (String × Option Json) :=
  [("id", some (.string template.id)), ("name", some (.string template.name)),
    ("description", some (.string template.description)),
    ("category", some (.string template.category)),
    ("danger_level", some template.dangerLevel.encode), ("inputs", some (.array inputs)),
    ("template_text", some (.string template.text)), ("examples", textsSlot template.examples),
    ("notes", textsSlot template.notes)]

theorem encode_eq {template : Template} {inputs : List Json}
    (encoded : template.inputs.mapM Input.encode = .ok inputs) :
    template.encode = .ok (.object (ofSlots (template.slots inputs))) := by
  simp only [encode, encoded, bind, Except.bind, textsMember_eq]
  simp [slots, ofSlots, optionalMember, pure, Except.pure]

/-- A template is recovered from what is written for it. -/
theorem recovers_decode {template : Template} {items : List Json}
    (inputs : List.Forall₂ (Decoder.Recovers Input.decode 2) items template.inputs) :
    Decoder.Recovers decode 4 (.object (ofSlots (template.slots items))) template := by
  have distinct : ((template.slots items).map Prod.fst).Nodup := by simp [slots]
  have look := lookup?_ofSlots distinct
  simp only [slots, List.forall_mem_cons] at look
  obtain ⟨id, name, description, category, danger, found, text, examples, notes, _⟩ := look
  have inputs := Decoder.recovers_list inputs
  have examples' := Decoder.recoversOr_texts 2 template.examples
  have notes' := Decoder.recoversOr_texts 2 template.notes
  constructor
  · apply haveIntegral_ofSlots
    simp only [slots, List.forall_mem_cons]
    refine ⟨?_, ?_, ?_, ?_, ?_, (inputs.recoversOr []).integral, ?_, examples'.integral,
      notes'.integral, List.forall_mem_nil _⟩
    all_goals
      intro value same
      cases same
      trivial
  · intro origin allows
    obtain ⟨inside, enter, allows⟩ := allows.enter
    have id := Record.gives_of_recovers (Decoder.recovers_string 3 _) allows id
    have name := Record.gives_of_recovers (Decoder.recovers_string 3 _) allows name
    have description := Record.gives_of_recovers (Decoder.recovers_string 3 _) allows description
    have category := Record.gives_of_recovers (Decoder.recovers_string 3 _) allows category
    have danger := Record.gives_of_recovers (DangerLevel.recovers_decode 3 _) allows danger
    have inputs := Record.gives_of_recovers inputs allows found
    have text := Record.gives_of_recovers (Decoder.recovers_string 3 _) allows text
    have examples := Record.givesOr_of_recoversOr examples' allows examples
    have notes := Record.givesOr_of_recoversOr notes' allows notes
    refine Record.read_bind_of_fits enter (nodup_keys_ofSlots distinct) ?_ ?_ ?_ _
    · simp only [fields, List.forall_mem_cons]
      exact ⟨id.fits_mandatory, name.fits_mandatory, description.fits_optional,
        category.fits_mandatory, danger.fits_optional, inputs.fits_optional, text.fits_mandatory,
        examples.fits, notes.fits, List.forall_mem_nil _⟩
    · simp only [fields, List.forall_mem_cons]
      exact ⟨fun _ => id.mem_keys, fun _ => name.mem_keys, nofun, fun _ => category.mem_keys,
        nofun, nofun, fun _ => text.mem_keys, nofun, nofun, List.forall_mem_nil _⟩
    · simp only [fields, List.forall_mem_cons]
      rintro values ⟨look₁, look₂, look₃, look₄, look₅, look₆, look₇, look₈, look₉, _⟩
      simp only [id.require look₁, name.require look₂, description.get look₃,
        category.require look₄, danger.get look₅, inputs.get look₆, text.require look₇,
        examples.get look₈, notes.get look₉, bind, Except.bind]
      rfl

theorem yields_decode :
    Decoder.Yields decode fun template => ∀ input ∈ template.inputs, ¬ input.HasCustomRule := by
  intro origin value template decoded
  simp only [decode, bind_eq_ok_iff] at decoded
  obtain ⟨record, _, _, _, _, _, _, _, _, _, _, _, inputs, got, _, _, _, _, _, _, same⟩ := decoded
  cases same
  exact Input.yields_decode.list.get (List.forall_mem_nil _) got

/-- The template has a written form, and is read back from both layouts of its text. -/
def IsReadBack (template : Template) : Prop :=
  ∃ json, template.encode = .ok json ∧ decode.ofText json.compact = .ok template ∧
    decode.ofText json.pretty = .ok template

theorem isReadBack_of_plain {template : Template}
    (plain : ∀ input ∈ template.inputs, ¬ input.HasCustomRule) : template.IsReadBack := by
  obtain ⟨items, encoded, recovers⟩ := Input.exists_recovers_all plain
  exact ⟨_, encode_eq encoded, (recovers_decode recovers).ofText (by decide)⟩

theorem encode_of_hasCustomRule {template : Template}
    (custom : ∃ input ∈ template.inputs, input.HasCustomRule) :
    template.encode = .error .customValidator := by
  rw [encode, Input.mapM_encode_of_hasCustomRule custom]
  rfl

/-- A template can be written when none of its inputs has a custom rule, and then it is read back.
So is whatever is read from a text. -/
theorem isReadBack_or_custom :
    (∀ template : Template,
      ((∀ input ∈ template.inputs, ¬ input.HasCustomRule) → template.IsReadBack) ∧
      ((∃ input ∈ template.inputs, input.HasCustomRule) →
        template.encode = .error .customValidator)) ∧
    ∀ text template, decode.ofText text = .ok template → template.IsReadBack := by
  refine ⟨fun template => ⟨isReadBack_of_plain, encode_of_hasCustomRule⟩, ?_⟩
  intro text template decoded
  exact isReadBack_of_plain (yields_decode.ofText decoded)

/-- A template with one input, which has the rule. -/
def ruled (validator : Validator) : Template where
  id := "a"
  name := ""
  category := "\""
  inputs := [{
    name := "n"
    label := "λ"
    kind := .select
    choices := ["", "n"]
    validator := some validator }]
  text := "{n}"
  notes := ["-"]

/-- The fields of a template as a list, the last two left out. The level has its second name, and
the input a member that is no field. -/
def listed : Json :=
  .array [.string "a", .string "", .string "", .string "c", .string "high",
    .array [.object [("label", .string "l"), ("size", .null), ("name", .string "n")]],
    .string "{n}"]

theorem isReadBack_ruled_listed :
    (ruled (.numberRange Int64.minValue Int64.maxValue)).IsReadBack ∧
    (ruled (.custom "none" fun value => .refuse value)).encode = .error .customValidator ∧
    ∃ template, decode.ofText listed.compact = .ok template ∧ template.dangerLevel = .dangerous ∧
      template.IsReadBack := by
  obtain ⟨written, read⟩ := isReadBack_or_custom
  refine ⟨(written _).1 ?_, (written _).2 ?_, ?_⟩
  · simp [ruled, Input.HasCustomRule, Validator.IsCustom]
  · simp [ruled, Input.HasCustomRule, Validator.IsCustom]
  · have spelled : decode.ofText listed.compact =
        decode (.text maxDepth) (ofJson listed) :=
      Decoder.ofText_of_isIntegral (by simp [listed, Json.IsIntegral, AreIntegral, HaveIntegral])
        (spells_compact listed) decode
    have decoded := spelled.trans rfl
    exact ⟨_, decoded, rfl, read _ _ decoded⟩

end Template

end CommandSynthesis
