import CommandSynthesis.Proofs.Synthesis.Selection
import Mathlib.Data.List.Forall2

set_option autoImplicit false

/-!
# What makes a command valid

A command is valid when every input passes, and otherwise there is one error for each input that
fails, in the order of the inputs. An input passes when its value is accepted. A custom rule may
also refuse a value without saying why: nothing is then said of the input, and the command is as
valid as if the value were accepted. No other rule does so.
-/

namespace CommandSynthesis

namespace Input

/-- The value is there if it is required and, unless it is blank, accepted by the validator if the
input has one. -/
def Accepts (input : Input) (value : String) : Prop :=
  ¬ (input.required = true ∧ Text.isBlankText value = true) ∧
    (Text.isBlankText value = true ∨
      ∀ validator ∈ input.validator, (validator.validate value).valid = true)

/-- The validator of the input refuses the value and does not say why. -/
def RefusesSilently (input : Input) (value : String) : Prop :=
  Text.isBlankText value = false ∧
    ∃ validator ∈ input.validator, validator.validate value = ⟨false, none⟩

def Passes (input : Input) (value : String) : Prop :=
  input.Accepts value ∨ input.RefusesSilently value

/-- How an input fails, and what is said then. -/
inductive Fails (input : Input) (value : String) : String → Prop where
  | missing : input.required = true → Text.isBlankText value = true →
      Fails input value (input.label ++ " is required")
  | refused {validator : Validator} {message : String} : Text.isBlankText value = false →
      input.validator = some validator → validator.validate value = ⟨false, some message⟩ →
      Fails input value (input.label ++ ": " ++ message)

instance (input : Input) (value : String) : Decidable (input.Accepts value) :=
  inferInstanceAs (Decidable (¬ (_ ∧ _) ∧ (_ ∨ _)))

instance (input : Input) (value : String) : Decidable (input.RefusesSilently value) :=
  inferInstanceAs (Decidable (_ ∧ _))

instance (input : Input) (value : String) : Decidable (input.Passes value) :=
  inferInstanceAs (Decidable (_ ∨ _))

variable {input : Input} {value error : String}

theorem Fails.label_isPrefix (fails : input.Fails value error) :
    input.label.toList <+: error.toList := by
  cases fails with
  | missing =>
    rw [String.toList_append]
    exact List.prefix_append _ _
  | refused =>
    rw [String.toList_append, String.toList_append, List.append_assoc]
    exact List.prefix_append _ _

theorem Fails.not_passes (fails : input.Fails value error) : ¬ input.Passes value := by
  intro passes
  cases fails with
  | missing required blank =>
    rcases passes with ⟨present, _⟩ | ⟨filled, _⟩
    · exact present ⟨required, blank⟩
    · rw [blank] at filled
      cases filled
  | refused filled known verdict =>
    rcases passes with ⟨_, blank | accepted⟩ | ⟨_, validator, known', silent⟩
    · rw [filled] at blank
      cases blank
    · have accepted := accepted _ known
      rw [verdict] at accepted
      cases accepted
    · cases known.symm.trans known'
      cases verdict.symm.trans silent

theorem exists_fails (stuck : ¬ input.Passes value) : ∃ error, input.Fails value error := by
  obtain ⟨rejected, spoken⟩ := not_or.1 stuck
  cases blank : Text.isBlankText value with
  | true =>
    have required : input.required = true := by
      apply Decidable.byContradiction
      intro optional
      exact rejected ⟨fun missing => optional missing.1, .inl blank⟩
    exact ⟨_, .missing required blank⟩
  | false =>
    have refused : ¬ ∀ validator ∈ input.validator, (validator.validate value).valid = true := by
      intro accepted
      refine rejected ⟨fun missing => ?_, .inr accepted⟩
      rw [blank] at missing
      cases missing.2
    obtain ⟨validator, refused⟩ := Classical.not_forall.1 refused
    obtain ⟨known, invalid⟩ := Classical.not_imp.1 refused
    cases verdict : validator.validate value with
    | mk valid message =>
    rw [verdict] at invalid
    cases valid with
    | true => exact absurd rfl invalid
    | false =>
      cases message with
      | none => exact absurd ⟨blank, validator, known, verdict⟩ spoken
      | some message => exact ⟨_, .refused blank known verdict⟩

/-- What is found wrong with an input is how it fails. -/
theorem error?_eq_some_iff {bindings : Bindings} :
    input.error? bindings = some error ↔ input.Fails (input.value bindings) error := by
  constructor
  · intro found
    unfold error? errorOf? at found
    split at found
    · next blank =>
      split at found
      · next required =>
        cases found
        exact .missing required blank
      · cases found
    · next filled =>
      split at found
      · cases found
      · next validator known =>
        dsimp only at found
        split at found
        · cases found
        · next invalid =>
          obtain ⟨message, spoken, rfl⟩ := Option.map_eq_some_iff.1 found
          refine .refused (Bool.eq_false_iff.2 filled) known ?_
          rw [← spoken, ← Bool.eq_false_iff.2 invalid]
  · intro fails
    unfold error? errorOf?
    cases fails with
    | missing required blank => rw [if_pos blank, if_pos required]
    | refused filled known verdict => simp [filled, known, verdict]

theorem error?_eq_none_iff_passes {bindings : Bindings} :
    input.error? bindings = none ↔ input.Passes (input.value bindings) := by
  constructor
  · intro fine
    apply Decidable.byContradiction
    intro stuck
    obtain ⟨error, fails⟩ := exists_fails stuck
    rw [error?_eq_some_iff.2 fails] at fine
    cases fine
  · intro passes
    apply Option.eq_none_iff_forall_ne_some.2
    intro error found
    exact (error?_eq_some_iff.1 found).not_passes passes

theorem forall₂_fails (inputs : List Input) (bindings : Bindings) :
    List.Forall₂ (fun input error => input.Fails (input.value bindings) error)
      (inputs.filter fun input => ¬ input.Passes (input.value bindings))
      (inputs.filterMap (·.error? bindings)) := by
  induction inputs with
  | nil => exact .nil
  | cons input rest ih =>
    cases found : input.error? bindings with
    | none =>
      have passes := error?_eq_none_iff_passes.1 found
      rw [List.filter_cons_of_neg (by simpa using passes)]
      simp only [List.filterMap_cons, found]
      exact ih
    | some error =>
      have fails := error?_eq_some_iff.1 found
      have stuck := fails.not_passes
      rw [List.filter_cons_of_pos (by simpa using stuck)]
      simp only [List.filterMap_cons, found]
      exact .cons fails ih

end Input

namespace Verdict

/-- Whoever refuses says why. -/
def Speaks (verdict : Verdict) : Prop :=
  verdict.valid = false → verdict.message ≠ none

theorem speaks_accept : accept.Speaks := nofun

theorem speaks_refuse (message : String) : (refuse message).Speaks := nofun

theorem speaks_check (condition : Bool) (message : String) : (check condition message).Speaks := by
  cases condition with
  | true => exact speaks_accept
  | false => exact speaks_refuse message

theorem speaks_ite {condition : Prop} [Decidable condition] {left right : Verdict}
    (first : left.Speaks) (second : right.Speaks) :
    (if condition then left else right).Speaks := by
  split
  · exact first
  · exact second

end Verdict

namespace Validator

open Verdict

/-- Only a custom rule may refuse without saying why. -/
theorem speaks_validate {validator : Validator} (known : validator.customName? = none)
    (value : String) : (validator.validate value).Speaks := by
  cases validator with
  | path =>
    exact speaks_ite (speaks_refuse _)
      (speaks_ite (speaks_refuse _) (speaks_ite (speaks_refuse _) speaks_accept))
  | pattern =>
    exact speaks_ite (speaks_refuse _) (speaks_ite (speaks_refuse _) speaks_accept)
  | numberRange low high =>
    change (Check.number value low high).Speaks
    unfold Check.number
    split
    · exact speaks_refuse _
    · exact speaks_ite speaks_accept (speaks_refuse _)
  | identifier =>
    exact speaks_ite (speaks_refuse _) (speaks_ite (speaks_refuse _) speaks_accept)
  | keyword =>
    exact speaks_ite (speaks_refuse _) (speaks_ite (speaks_refuse _) speaks_accept)
  | notBlank message => exact speaks_check _ message
  | regex expression message =>
    change (matchVerdict expression message value).Speaks
    unfold matchVerdict
    split
    · exact speaks_check _ message
    · exact speaks_refuse _
  | custom name check => cases known

end Validator

theorem Input.not_refusesSilently {input : Input}
    (known : ∀ validator ∈ input.validator, validator.customName? = none) (value : String) :
    ¬ input.RefusesSilently value := by
  rintro ⟨_, validator, member, silent⟩
  have speaks := Validator.speaks_validate (known validator member) value
  rw [silent] at speaks
  exact speaks rfl rfl

namespace Template

/-- A command is valid exactly when every input passes. Else there is one error for each input that
fails, in their order, each beginning with the label of its input. To pass means to be accepted,
unless the input has a custom rule. -/
theorem valid_synthesize_iff_passes (template : Template) (bindings : Bindings) (now : Instant) :
    ((template.synthesize bindings false now).valid = true ↔
        ∀ input ∈ template.inputs, input.Passes (input.value bindings)) ∧
      List.Forall₂
        (fun input error => input.Fails (input.value bindings) error ∧
          input.label.toList <+: error.toList)
        (template.inputs.filter fun input => ¬ input.Passes (input.value bindings))
        (template.synthesize bindings false now).errors ∧
      ∀ (input : Input) (value : String),
        (∀ validator ∈ input.validator, validator.customName? = none) →
          (input.Passes value ↔ input.Accepts value) := by
  refine ⟨?_, ?_, ?_⟩
  · rw [valid_synthesize_iff]
    constructor
    · intro ⟨fine, _⟩ input member
      exact Input.error?_eq_none_iff_passes.1 (fine input member)
    · intro passes
      refine ⟨fun input member => ?_, nofun⟩
      exact Input.error?_eq_none_iff_passes.2 (passes input member)
  · have errors : (template.synthesize bindings false now).errors =
        template.inputs.filterMap (·.error? bindings) := List.append_nil _
    rw [errors]
    exact (Input.forall₂_fails template.inputs bindings).imp fun input error fails =>
      ⟨fails, fails.label_isPrefix⟩
  · intro input value known
    constructor
    · intro passes
      exact passes.resolve_right (Input.not_refusesSilently known value)
    · exact .inl

/-- A template whose input has a rule that refuses everything and never says why. -/
def muted : Template where
  id := "muted"
  name := "Muted"
  category := "text"
  inputs := [
    { name := "word", label := "Word", validator := some (.custom "no" fun _ => ⟨false, none⟩) }]
  text := "echo \x7bword\x7d"

/-- A value that is refused without a word leaves the command valid. -/
theorem valid_muted :
    let bindings : Bindings := ⟨[("word", "bad")]⟩
    (muted.synthesize bindings false .epoch).valid = true ∧
      (muted.synthesize bindings false .epoch).errors = [] ∧
      ¬ ∀ input ∈ muted.inputs, input.Accepts (input.value bindings) := by
  decide +kernel

end Template

end CommandSynthesis
