import CommandSynthesis.Lint.Basic
import CommandSynthesis.Proofs.Synthesis.Locality
import Mathlib.Data.List.Nodup

set_option autoImplicit false

/-!
# Templates that pass lint

Lint reports no error exactly when inputs have distinct names, each name in the text is that of an
input, and select inputs have choices. The first and the last input of a name are then the same, so
that the order of the inputs counts only for the order of the errors. When lint reports nothing at
all, each case of a conditional on a select input is reached by a choice.
-/

namespace CommandSynthesis

theorem repeats_eq_nil_iff {seen names : List String} :
    repeats seen names = [] ↔ names.Nodup ∧ ∀ name ∈ names, name ∉ seen := by
  induction names generalizing seen with
  | nil => simp [repeats]
  | cons name names ih =>
    by_cases old : name ∈ seen
    · have repeated : repeats seen (name :: names) = name :: repeats seen names := by
        rw [repeats, if_pos (List.contains_iff_mem.2 old)]
      rw [repeated]
      constructor
      · nofun
      · intro ⟨_, fresh⟩
        exact absurd old (fresh name List.mem_cons_self)
    · have fresh : repeats seen (name :: names) = repeats (name :: seen) names := by
        rw [repeats, if_neg (mt List.contains_iff_mem.1 old)]
      rw [fresh, ih, List.nodup_cons]
      constructor
      · intro ⟨distinct, others⟩
        refine ⟨⟨fun again => others name again List.mem_cons_self, distinct⟩, fun other member => ?_⟩
        cases member with
        | head => exact old
        | tail _ member => exact fun before => others other member (List.mem_cons_of_mem _ before)
      · intro ⟨⟨once, distinct⟩, others⟩
        refine ⟨distinct, fun other member before => ?_⟩
        cases before with
        | head => exact once member
        | tail _ before => exact others other (List.mem_cons_of_mem _ member) before

namespace Input

/-- Where names are distinct, the first input of a name is the only one. -/
theorem find?_eq_some_iff {inputs : List Input} (distinct : (inputs.map name).Nodup)
    {key : String} {input : Input} :
    inputs.find? (·.name == key) = some input ↔ input ∈ inputs ∧ input.name = key := by
  constructor
  · intro found
    exact ⟨List.mem_of_find?_eq_some found, by simpa using List.find?_some found⟩
  · rintro ⟨member, rfl⟩
    cases found : inputs.find? (·.name == input.name) with
    | none =>
      have other := List.find?_eq_none.1 found input member
      exact absurd (beq_self_eq_true input.name) other
    | some first =>
      have named : first.name = input.name := by simpa using List.find?_some found
      have same := List.inj_on_of_nodup_map distinct (List.mem_of_find?_eq_some found) member named
      rw [same]

theorem find?_perm {left right : List Input} (perm : left.Perm right)
    (distinct : (right.map name).Nodup) (key : String) :
    left.find? (·.name == key) = right.find? (·.name == key) := by
  have distinctLeft : (left.map name).Nodup := (perm.map name).nodup_iff.2 distinct
  ext input
  rw [find?_eq_some_iff distinctLeft, find?_eq_some_iff distinct, perm.mem_iff]

end Input

namespace Template

/-- Inputs have distinct names, each name in the text is that of an input, and select inputs have
choices. -/
structure Sound (template : Template) : Prop where
  distinct : (template.inputs.map Input.name).Nodup
  resolved : ∀ name ∈ Segment.names template.segments, ∃ input ∈ template.inputs, input.name = name
  offers : ∀ input ∈ template.inputs, input.isSelect = true → input.choices ≠ []

/-- Moreover each input is referred to, and the default of a select input and the cases of the
conditionals on it are among its choices. -/
structure Tidy (template : Template) : Prop extends template.Sound where
  used : ∀ input ∈ template.inputs, input.name ∈ Segment.names template.segments
  defaults : ∀ input ∈ template.inputs, input.isSelect = true →
    ∀ value, input.defaultValue = some value → value ∈ input.choices
  branches : ∀ cond ∈ Segment.conditionals template.segments, ∀ input ∈ template.inputs,
    input.name = cond.name → input.isSelect = true →
      ∀ branch ∈ cond.branches, branch.value ∈ input.choices

variable {template : Template}

/-! ## What is reported -/

theorem duplicateInputs_eq_nil_iff :
    template.duplicateInputs = [] ↔ (template.inputs.map Input.name).Nodup := by
  rw [duplicateInputs, List.map_eq_nil_iff, repeats_eq_nil_iff]
  simp

theorem unmatchedTokens_eq_nil_iff {names : List String} :
    template.unmatchedTokens names = [] ↔
      ∀ name ∈ names, ∃ input ∈ template.inputs, input.name = name := by
  rw [unmatchedTokens, List.map_eq_nil_iff, List.filter_eq_nil_iff]
  simp [findInput?]

theorem inputIssues_eq_nil_iff {names : List String} {input : Input} :
    template.inputIssues names input = [] ↔
      input.name ∈ names ∧ (input.isSelect = true → input.choices ≠ [] ∧
        ∀ value, input.defaultValue = some value → value ∈ input.choices) := by
  unfold inputIssues
  simp only [List.append_eq_nil_iff, and_assoc]
  refine and_congr (by simp) ?_
  by_cases select : input.isSelect = true
  · by_cases empty : input.choices = []
    · simp [select, empty]
    · cases default : input.defaultValue with
      | none => simp [select, empty]
      | some value => simp [select, empty]
  · cases default : input.defaultValue <;> simp [select]

theorem forall_inputIssues_iff {names : List String} {input : Input} :
    (∀ issue ∈ template.inputIssues names input, issue.severity ≠ .error) ↔
      (input.isSelect = true → input.choices ≠ []) := by
  constructor
  · intro fine select empty
    let unchosen := template.lintError ("select input '" ++ input.name ++ "' has no choices")
    have reported : unchosen ∈ template.inputIssues names input := by
      simp [inputIssues, select, empty, unchosen]
    exact fine unchosen reported rfl
  · intro offers issue member
    obtain warns | ⟨select, empty, _⟩ := warning_or_error_of_mem_inputIssues member
    · simp [warns]
    · exact absurd empty (offers select)

theorem branchIssues_eq_nil_iff {cond : Conditional} :
    template.branchIssues cond = [] ↔ ∀ input, template.findInput? cond.name = some input →
      input.isSelect = true → input.choices ≠ [] →
        ∀ branch ∈ cond.branches, branch.value ∈ input.choices := by
  unfold branchIssues
  cases found : template.findInput? cond.name with
  | none => simp
  | some input =>
    by_cases select : input.isSelect = true
    · by_cases empty : input.choices = [] <;> simp [select, empty]
    · simp [select]

theorem forall_duplicateInputs_iff :
    (∀ issue ∈ template.duplicateInputs, issue.severity ≠ .error) ↔
      (template.inputs.map Input.name).Nodup := by
  rw [← duplicateInputs_eq_nil_iff, duplicateInputs, List.forall_mem_map, List.map_eq_nil_iff]
  simp [lintError, List.eq_nil_iff_forall_not_mem]

theorem forall_unmatchedTokens_iff {names : List String} :
    (∀ issue ∈ template.unmatchedTokens names, issue.severity ≠ .error) ↔
      ∀ name ∈ names, ∃ input ∈ template.inputs, input.name = name := by
  rw [← unmatchedTokens_eq_nil_iff, unmatchedTokens, List.forall_mem_map, List.map_eq_nil_iff]
  simp [lintError, List.eq_nil_iff_forall_not_mem]

/-- Lint reports no error exactly when the template is sound. -/
theorem forall_lint_iff : (∀ issue ∈ template.lint, issue.severity ≠ .error) ↔ template.Sound := by
  unfold lint
  simp only [List.forall_mem_append, forall_duplicateInputs_iff, forall_unmatchedTokens_iff]
  constructor
  · intro ⟨⟨⟨distinct, resolved⟩, inputs⟩, _⟩
    refine ⟨distinct, resolved, fun input member => ?_⟩
    apply forall_inputIssues_iff.1
    intro issue reported
    exact inputs issue (List.mem_flatMap.2 ⟨input, member, reported⟩)
  · intro sound
    refine ⟨⟨⟨sound.distinct, sound.resolved⟩, fun issue reported => ?_⟩, fun issue reported => ?_⟩
    · obtain ⟨input, member, reported⟩ := List.mem_flatMap.1 reported
      exact forall_inputIssues_iff.2 (sound.offers input member) issue reported
    · obtain ⟨cond, _, reported⟩ := List.mem_flatMap.1 reported
      simp [warning_of_mem_branchIssues reported]

/-- Lint reports nothing exactly when the template is tidy. -/
theorem lint_eq_nil_iff : template.lint = [] ↔ template.Tidy := by
  unfold lint
  simp only [List.append_eq_nil_iff, List.flatMap_eq_nil_iff, duplicateInputs_eq_nil_iff,
    unmatchedTokens_eq_nil_iff, inputIssues_eq_nil_iff, branchIssues_eq_nil_iff]
  constructor
  · intro ⟨⟨⟨distinct, resolved⟩, inputs⟩, branches⟩
    have offers : ∀ input ∈ template.inputs, input.isSelect = true → input.choices ≠ [] :=
      fun input member select => ((inputs input member).2 select).1
    refine ⟨⟨distinct, resolved, offers⟩, fun input member => (inputs input member).1,
      fun input member select => ((inputs input member).2 select).2, ?_⟩
    intro cond listed input member named select
    have found := (Input.find?_eq_some_iff distinct).2 ⟨member, named⟩
    exact branches cond listed input found select (offers input member select)
  · intro tidy
    refine ⟨⟨⟨tidy.distinct, tidy.resolved⟩, fun input member => ⟨tidy.used input member,
      fun select => ⟨tidy.offers input member select, tidy.defaults input member select⟩⟩⟩, ?_⟩
    intro cond listed input found select _
    obtain ⟨member, named⟩ := (Input.find?_eq_some_iff tidy.distinct).1 found
    exact tidy.branches cond listed input member named select

/-! ## What a sound template means -/

/-- In a sound template a name stands for the input that a search finds first, whatever the order
of the inputs. -/
theorem Sound.boundInput?_perm (sound : template.Sound) {inputs : List Input}
    (perm : inputs.Perm template.inputs) (name : String) :
    { template with inputs }.boundInput? name = template.findInput? name :=
  Input.find?_perm (inputs.reverse_perm.trans perm) sound.distinct name

theorem Sound.exists_boundInput? (sound : template.Sound) {name : String}
    (listed : name ∈ Segment.names template.segments) :
    ∃ input, template.findInput? name = some input ∧ template.boundInput? name = some input := by
  obtain ⟨input, member, named⟩ := sound.resolved name listed
  have found : template.findInput? name = some input :=
    (Input.find?_eq_some_iff sound.distinct).2 ⟨member, named⟩
  exact ⟨input, found, (sound.boundInput?_perm (.refl _) name).trans found⟩

theorem Sound.errors_perm (sound : template.Sound) {inputs : List Input}
    (perm : inputs.Perm template.inputs) (bindings : Bindings) (strict : Bool) :
    { template with inputs }.errors bindings strict = inputs.filterMap (·.error? bindings) := by
  -- Each name is that of an input, so that nothing is added when asked to be strict.
  have resolved : { template with inputs }.unresolvedNames = [] := by
    refine List.filter_eq_nil_iff.2 fun name listed => ?_
    obtain ⟨input, found, _⟩ := sound.exists_boundInput? listed
    rw [sound.boundInput?_perm perm, found]
    nofun
  unfold errors
  rw [resolved, List.map_nil, ite_self, List.append_nil]
  rfl

theorem Sound.command_perm (sound : template.Sound) {inputs : List Input}
    (perm : inputs.Perm template.inputs) (bindings : Bindings) :
    { template with inputs }.command bindings = template.command bindings := by
  refine command_congr rfl fun name _ => ?_
  have first := sound.boundInput?_perm perm name
  have last := sound.boundInput?_perm (.refl _) name
  exact congrArg (Option.map (·.piece bindings)) (first.trans last.symm)

end Template

/-- The value of a branch selects the first branch with that value. -/
theorem Conditional.exists_first_branch {cond : Conditional} {branch : Branch}
    (member : branch ∈ cond.branches) :
    ∃ before first after, cond.branches = before ++ first :: after ∧
      first.value = branch.value ∧ (∀ earlier ∈ before, earlier.value ≠ branch.value) ∧
      cond.select branch.value = first.body := by
  cases found : cond.branches.find? (·.value == branch.value) with
  | none =>
    have other := List.find?_eq_none.1 found branch member
    exact absurd (beq_self_eq_true branch.value) other
  | some first =>
    obtain ⟨same, before, after, split, others⟩ := List.find?_eq_some_iff_append.1 found
    refine ⟨before, first, after, split, beq_iff_eq.1 same, fun earlier listed equal => ?_, ?_⟩
    · have differs := others earlier listed
      simp [equal] at differs
    · rw [select, found]

namespace Template

/-- A template of which lint reports no error means the same in any order of its inputs: a name in
its text stands for the input that a search finds first, and errors come in the order of the inputs.
When lint reports no warning either, each case of a conditional on a select input is reached by one
of the choices. -/
theorem synthesize_perm_of_lint (template : Template)
    (clean : ∀ issue ∈ template.lint, issue.severity ≠ .error) :
    (∀ name ∈ Segment.names template.segments, ∃ input ∈ template.inputs,
        template.findInput? name = some input ∧ template.boundInput? name = some input) ∧
      (∀ inputs : List Input, inputs.Perm template.inputs →
        let other := { template with inputs }
        (∀ name, other.boundInput? name = template.boundInput? name ∧
            other.findInput? name = template.findInput? name) ∧
          ∀ bindings strict now,
            let left := other.synthesize bindings strict now
            let right := template.synthesize bindings strict now
            left.command = right.command ∧ left.valid = right.valid ∧
              left.errors = inputs.filterMap (·.error? bindings) ∧
              right.errors = template.inputs.filterMap (·.error? bindings) ∧
              left.errors.Perm right.errors) ∧
      ((∀ issue ∈ template.lint, issue.severity ≠ .warning) →
        ∀ cond, .conditional cond ∈ template.segments →
        ∀ input ∈ template.inputs, input.name = cond.name → input.isSelect = true →
        ∀ branch ∈ cond.branches, ∃ choice ∈ input.choices, ∃ before first after,
          cond.branches = before ++ first :: after ∧ first.value = branch.value ∧
            (∀ earlier ∈ before, earlier.value ≠ branch.value) ∧
            cond.select choice = first.body) := by
  have sound := forall_lint_iff.1 clean
  refine ⟨fun name listed => ?_, fun inputs perm => ⟨fun name => ?_, fun bindings strict now => ?_⟩,
    fun quiet => ?_⟩
  · obtain ⟨input, found, bound⟩ := sound.exists_boundInput? listed
    exact ⟨input, mem_inputs_of_boundInput? bound, found, bound⟩
  · have last := (sound.boundInput?_perm perm name).trans (sound.boundInput?_perm (.refl _) name).symm
    exact ⟨last, Input.find?_perm perm sound.distinct name⟩
  · have left := sound.errors_perm perm bindings strict
    have right := sound.errors_perm (.refl _) bindings strict
    have errors := perm.filterMap (·.error? bindings)
    refine ⟨sound.command_perm perm bindings, ?_, left, right, ?_⟩
    · simp only [synthesize, left, right]
      exact errors.isEmpty_eq
    · simp only [synthesize, left, right]
      exact errors
  · have silent : template.lint = [] := by
      refine List.eq_nil_iff_forall_not_mem.2 fun issue reported => ?_
      cases severity : issue.severity with
      | error => exact clean issue reported severity
      | warning => exact quiet issue reported severity
    have tidy := lint_eq_nil_iff.1 silent
    intro cond listed input member named select branch among
    have offered := tidy.branches cond (Segment.mem_conditionals listed) input member named
      select branch among
    exact ⟨branch.value, offered, cond.exists_first_branch among⟩

/-- A listing in one of two formats, one of them with two branches. -/
def listing : Template where
  id := "listing"
  name := "Listing"
  category := "files"
  inputs := [
    { name := "dir", label := "Directory", required := true },
    { name := "format", label := "Format", kind := .select, choices := ["long", "short"] },
    { name := "owner", label := "Owner", required := true }]
  text := "ls \x7bformat|long:-l \x7bowner\x7d|short:-1|long:-L|-x\x7d \x7bdir\x7d"

theorem synthesize_perm_of_lint_listing :
    let other := { listing with inputs := listing.inputs.reverse }
    let bindings : Bindings := ⟨[("format", "long")]⟩
    listing.lint = [] ∧
      (∃ input ∈ listing.inputs, listing.findInput? "owner" = some input ∧
        listing.boundInput? "owner" = some input) ∧
      (other.synthesize bindings true .epoch).command = "ls -l '' ''" ∧
      (listing.synthesize bindings true .epoch).errors =
        ["Directory is required", "Owner is required"] ∧
      (other.synthesize bindings true .epoch).errors =
        ["Owner is required", "Directory is required"] ∧
      ∀ cond, .conditional cond ∈ listing.segments → ∀ input ∈ listing.inputs,
        input.name = cond.name → input.isSelect = true →
        ∀ branch ∈ cond.branches, ∃ choice ∈ input.choices, ∃ before first after,
          cond.branches = before ++ first :: after ∧ first.value = branch.value ∧
            (∀ earlier ∈ before, earlier.value ≠ branch.value) ∧
            cond.select choice = first.body := by
  intro other bindings
  have silent : listing.lint = [] := by decide +kernel
  have none (severity : Severity) : ∀ issue ∈ listing.lint, issue.severity ≠ severity := by
    simp [silent]
  obtain ⟨inputs, orders, cases⟩ := listing.synthesize_perm_of_lint (none .error)
  obtain ⟨command, _, reversed, straight, _⟩ :=
    (orders _ listing.inputs.reverse_perm).2 bindings true .epoch
  refine ⟨silent, inputs "owner" (by decide +kernel), command.trans (by decide +kernel),
    straight.trans (by decide +kernel), reversed.trans (by decide +kernel), ?_⟩
  exact cases (none .warning)

end Template

end CommandSynthesis
