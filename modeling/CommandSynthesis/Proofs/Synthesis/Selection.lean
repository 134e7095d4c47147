import CommandSynthesis.Synthesis.Basic

set_option autoImplicit false

/-!
# Values inserted as they are

The value of a select input is inserted without quotes. The choices of the input play no part in
what is found wrong with a value: only its validator does. So a valid command holds nothing but
choices exactly when the validators refuse every other value that can be inserted.
-/

namespace CommandSynthesis

/-- The validator of the input refuses a value and says why. -/
def Input.Refuses (input : Input) (value : String) : Prop :=
  ∃ validator, input.validator = some validator ∧
    (validator.validate value).valid = false ∧ (validator.validate value).message ≠ none

/-- Nothing is wrong with a value that is not blank exactly when the validator does not refuse
it. -/
theorem Input.error?_eq_none_iff {input : Input} {bindings : Bindings}
    (filled : Text.isBlankText (input.value bindings) = false) :
    input.error? bindings = none ↔ ¬ input.Refuses (input.value bindings) := by
  unfold error? errorOf? Refuses
  cases input.validator with
  | none => simp [filled]
  | some validator =>
    cases valid : (validator.validate (input.value bindings)).valid <;> simp [filled, valid]

theorem Input.value_of_find? {input : Input} {bindings : Bindings} {value : String}
    (given : bindings.find? input.name = some value) : input.value bindings = value := by
  simp [Input.value, given]

namespace Template

/-- A value given by the caller is inserted as it is at a reference to a select input. -/
structure Inserts (template : Template) (bindings : Bindings) (name value : String) : Prop where
  given : bindings.find? name = some value
  piece : .selected name value ∈ template.pieces bindings

/-- The value is one of the choices of the input that the name stands for. -/
def Offers (template : Template) (name value : String) : Prop :=
  ∃ input, template.boundInput? name = some input ∧ value ∈ input.choices

/-- Valid commands hold no value as it was given but blank ones and choices. -/
def HoldsOnlyChoices (template : Template) : Prop :=
  ∀ bindings strict now name value,
    (template.synthesize bindings strict now).valid = true →
      template.Inserts bindings name value →
        Text.isBlankText value = true ∨ template.Offers name value

/-- Some values that are right for all other inputs insert this one. -/
def CanInsert (template : Template) (name value : String) : Prop :=
  ∃ bindings, template.Inserts bindings name value ∧
    ∀ input ∈ template.inputs, input.name ≠ name → input.error? bindings = none

theorem inputErrors_eq_nil_iff {template : Template} {bindings : Bindings} :
    template.inputErrors bindings = [] ↔
      ∀ input ∈ template.inputs, input.error? bindings = none :=
  List.filterMap_eq_nil_iff

theorem valid_synthesize_iff {template : Template} {bindings : Bindings} {strict : Bool}
    {now : Instant} :
    (template.synthesize bindings strict now).valid = true ↔
      (∀ input ∈ template.inputs, input.error? bindings = none) ∧
        (strict = true → template.unresolvedNames = []) := by
  unfold synthesize errors
  rw [List.isEmpty_iff, List.append_eq_nil_iff, inputErrors_eq_nil_iff]
  cases strict <;> simp

/-- Valid commands hold only choices exactly when every value that is not blank, is no choice and
can be inserted is refused by an input of that name. -/
theorem holdsOnlyChoices_iff (template : Template) :
    template.HoldsOnlyChoices ↔
      ∀ name value, template.CanInsert name value →
        Text.isBlankText value = true ∨ template.Offers name value ∨
          ∃ input ∈ template.inputs, input.name = name ∧ input.Refuses value := by
  constructor
  · rintro only name value ⟨bindings, inserted, others⟩
    cases filled : Text.isBlankText value with
    | true => exact .inl rfl
    | false =>
      refine .inr (Classical.or_iff_not_imp_right.2 fun accepted => ?_)
      have right : ∀ input ∈ template.inputs, input.error? bindings = none := by
        intro input member
        by_cases named : input.name = name
        · have value := Input.value_of_find? (named ▸ inserted.given)
          rw [Input.error?_eq_none_iff (by rwa [value]), value]
          exact fun refused => accepted ⟨input, member, named, refused⟩
        · exact others input member named
      -- Nothing is wrong now, so that the value would be held by a valid command.
      have valid : (template.synthesize bindings false .epoch).valid = true :=
        valid_synthesize_iff.2 ⟨right, by simp⟩
      have held := only bindings false .epoch name value valid inserted
      simpa [filled] using held
  · intro guarded bindings strict now name value valid inserted
    have right := (valid_synthesize_iff.1 valid).1
    have able : template.CanInsert name value :=
      ⟨bindings, inserted, fun input member _ => right input member⟩
    rcases guarded name value able with blank | offered | ⟨input, member, named, refused⟩
    · exact .inl blank
    · exact .inr offered
    · cases filled : Text.isBlankText value with
      | true => exact .inl rfl
      | false =>
        have value := Input.value_of_find? (named ▸ inserted.given)
        have accepted := (Input.error?_eq_none_iff (by rwa [value])).1 (right input member)
        exact absurd refused (value ▸ accepted)

/-- A template whose select input has choices and no validator. -/
def launch : Template where
  id := "launch"
  name := "Launch"
  category := "system"
  inputs := [{ name := "mode", label := "Mode", kind := .select, choices := ["fast", "safe"] }]
  text := "launch --mode \x7bmode\x7d"

/-- A value that is no choice is inserted into a valid command. -/
theorem launch_inserts_command :
    let bindings : Bindings := ⟨[("mode", "fast; reboot")]⟩
    (∀ input ∈ launch.inputs, input.isSelect = true → input.choices ≠ []) ∧
      (launch.synthesize bindings false .epoch).valid = true ∧
      (launch.synthesize bindings false .epoch).command = "launch --mode fast; reboot" ∧
      ¬ launch.HoldsOnlyChoices := by
  intro bindings
  have valid : (launch.synthesize bindings false .epoch).valid = true := by decide +kernel
  refine ⟨by decide, valid, by decide +kernel, fun only => ?_⟩
  have inserted : launch.Inserts bindings "mode" "fast; reboot" :=
    ⟨by decide +kernel, by decide +kernel⟩
  rcases only bindings false .epoch _ _ valid inserted with blank | ⟨input, bound, choice⟩
  · revert blank
    decide +kernel
  · have member : input ∈ launch.inputs := List.mem_reverse.1 (List.mem_of_find?_eq_some bound)
    rw [List.mem_singleton.1 member] at choice
    revert choice
    decide

end Template

end CommandSynthesis
