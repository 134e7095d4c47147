import CommandSynthesis.Lint.Basic
import CommandSynthesis.Proofs.Segment.Length
import CommandSynthesis.Synthesis.Basic
import Mathlib.Data.List.Basic

set_option autoImplicit false

/-!
# Names without input

Strict synthesis and lint report the same names: those that the text of a template refers to and no
input has, each once, in the order in which they come. A template of which nothing is reported
writes no token into a command as it stands, whatever the values.
-/

namespace CommandSynthesis

theorem nodup_eraseDups (names : List String) : names.eraseDups.Nodup := by
  cases names with
  | nil => exact List.nodup_nil
  | cons name rest =>
    rw [List.eraseDups_cons, List.nodup_cons]
    constructor
    · simp [List.mem_eraseDups]
    · exact nodup_eraseDups _
termination_by names.length
decreasing_by
  exact Nat.lt_succ_of_le (List.length_filter_le _ _)

namespace LintIssue

/-- The name that an error says no input has, if it says so. -/
def unmatchedName? (issue : LintIssue) : Option String :=
  match issue.severity with
  | .warning => none
  | .error => do
    let rest ← "token \x7b".toList.isPrefixOf? issue.message.toList
    let name ← "\x7d has no matching input".toList.isSuffixOf? rest
    return String.ofList name

theorem unmatchedName?_of_warning {issue : LintIssue} (warns : issue.severity = .warning) :
    issue.unmatchedName? = none := by
  unfold unmatchedName?
  rw [warns]

theorem unmatchedName?_unmatched (id name : String) :
    unmatchedName? ⟨id, .error, "token " ++ referenceText name ++ " has no matching input"⟩ =
      some name := by
  have front : "token \x7b".toList.isPrefixOf?
      ("token " ++ referenceText name ++ " has no matching input").toList =
        some (name.toList ++ "\x7d has no matching input".toList) := by
    rw [List.isPrefixOf?_eq_some_iff_append_eq]
    simp [referenceText]
  have back : "\x7d has no matching input".toList.isSuffixOf?
      (name.toList ++ "\x7d has no matching input".toList) = some name.toList := by
    rw [List.isSuffixOf?_eq_some_iff_append_eq]
  simp only [unmatchedName?, front, Option.bind_eq_bind, Option.bind_some, back,
    String.ofList_toList]
  rfl

/-- An error that begins with another character is not about a name without input. -/
theorem unmatchedName?_other (id : String) {message : String}
    (other : message.toList.head? ≠ some 't') : unmatchedName? ⟨id, .error, message⟩ = none := by
  have front : "token \x7b".toList.isPrefixOf? message.toList = none := by
    apply Option.eq_none_iff_forall_ne_some.2
    intro rest found
    rw [List.isPrefixOf?_eq_some_iff_append_eq] at found
    exact other (by rw [← found]; rfl)
  simp only [unmatchedName?, front]
  rfl

end LintIssue

namespace Template

open LintIssue

variable {template : Template} {bindings : Bindings}

theorem boundInput?_eq_none_iff_findInput? {name : String} :
    template.boundInput? name = none ↔ template.findInput? name = none := by
  simp [boundInput?_eq_none_iff, findInput?]

/-! ## Names reported by lint -/

theorem filterMap_duplicateInputs :
    template.duplicateInputs.filterMap unmatchedName? = [] := by
  apply List.filterMap_eq_nil_iff.2
  intro issue member
  obtain ⟨name, _, rfl⟩ := List.mem_map.1 member
  exact unmatchedName?_other _ (by simp)

theorem filterMap_unmatchedTokens (names : List String) :
    (template.unmatchedTokens names).filterMap unmatchedName? =
      names.filter fun name => (template.boundInput? name).isNone := by
  have lookups : (fun name => (template.findInput? name).isNone) =
      fun name => (template.boundInput? name).isNone := by
    funext name
    rw [Bool.eq_iff_iff, Option.isNone_iff_eq_none, Option.isNone_iff_eq_none,
      boundInput?_eq_none_iff_findInput?]
  have named : unmatchedName? ∘ (fun name => template.lintError
      ("token " ++ referenceText name ++ " has no matching input")) = some := by
    funext name
    exact unmatchedName?_unmatched _ name
  rw [unmatchedTokens, List.filterMap_map, named, List.filterMap_some, lookups]

/-- Of what can be wrong with an input, only a lack of choices is an error. -/
theorem warning_or_error_of_mem_inputIssues {names : List String} {input : Input}
    {issue : LintIssue} (member : issue ∈ template.inputIssues names input) :
    issue.severity = .warning ∨ input.isSelect = true ∧ input.choices = [] ∧
      issue = template.lintError ("select input '" ++ input.name ++ "' has no choices") := by
  unfold inputIssues at member
  dsimp only at member
  rcases List.mem_append.1 member with member | member
  · rcases List.mem_append.1 member with member | member
    · split at member
      · cases member
      · cases List.mem_singleton.1 member
        exact .inl rfl
    · split at member
      · next unchosen =>
        exact .inr ⟨unchosen.1, List.isEmpty_iff.1 unchosen.2, List.mem_singleton.1 member⟩
      · cases member
  · split at member
    · cases member
    · split at member
      · cases List.mem_singleton.1 member
        exact .inl rfl
      · cases member

theorem warning_of_mem_branchIssues {cond : Conditional} {issue : LintIssue}
    (member : issue ∈ template.branchIssues cond) : issue.severity = .warning := by
  unfold branchIssues at member
  split at member
  · cases member
  · split at member
    · obtain ⟨branch, _, rfl⟩ := List.mem_map.1 member
      rfl
    · cases member

theorem filterMap_lint : template.lint.filterMap unmatchedName? = template.unresolvedNames := by
  have inputs (names : List String) :
      (template.inputs.flatMap (template.inputIssues names)).filterMap unmatchedName? = [] := by
    apply List.filterMap_eq_nil_iff.2
    intro issue member
    obtain ⟨input, _, member⟩ := List.mem_flatMap.1 member
    obtain warns | ⟨_, _, rfl⟩ := warning_or_error_of_mem_inputIssues member
    · exact unmatchedName?_of_warning warns
    · exact unmatchedName?_other _ (by simp)
  have branches (conds : List Conditional) :
      (conds.flatMap template.branchIssues).filterMap unmatchedName? = [] := by
    apply List.filterMap_eq_nil_iff.2
    intro issue member
    obtain ⟨cond, _, member⟩ := List.mem_flatMap.1 member
    exact unmatchedName?_of_warning (warning_of_mem_branchIssues member)
  unfold lint
  simp only [List.filterMap_append, filterMap_duplicateInputs, filterMap_unmatchedTokens, inputs,
    branches, List.nil_append, List.append_nil]
  rfl

theorem nodup_unresolvedNames : template.unresolvedNames.Nodup :=
  (nodup_eraseDups _).filter _

/-! ## Tokens that are written as they stand -/

/-- A token of the template, between the pieces that the text before it gives and those that the
text after it gives. A reference in a branch counts when the value of the conditional selects the
branch. -/
inductive TokenAt (template : Template) (bindings : Bindings) :
    List Piece → String → List Piece → Prop where
  | simple {before after : List Segment} {name : String} :
      template.segments = before ++ .simple name :: after →
      TokenAt template bindings (before.flatMap (template.segmentPieces bindings))
        (referenceText name) (after.flatMap (template.segmentPieces bindings))
  | conditional {before after : List Segment} {cond : Conditional} :
      template.segments = before ++ .conditional cond :: after →
      TokenAt template bindings (before.flatMap (template.segmentPieces bindings))
        cond.raw (after.flatMap (template.segmentPieces bindings))
  | nested {before after : List Segment} {cond : Conditional} {input : Input}
      {first last : List Part} {name : String} :
      template.segments = before ++ .conditional cond :: after →
      template.boundInput? cond.name = some input →
      cond.select (input.value bindings) = first ++ .ref name :: last →
      TokenAt template bindings
        (before.flatMap (template.segmentPieces bindings) ++
          first.map (template.partPiece bindings))
        (referenceText name)
        (last.map (template.partPiece bindings) ++
          after.flatMap (template.segmentPieces bindings))

/-- The pieces of the command have a token as it stands in the template, in the place of the
token. -/
def LeavesToken (template : Template) (bindings : Bindings) : Prop :=
  ∃ front token back, template.TokenAt bindings front token back ∧
    template.pieces bindings = front ++ .author token :: back

/-- A token that is left is part of the command. -/
theorem LeavesToken.command_eq (leaves : template.LeavesToken bindings) :
    ∃ front token back, template.TokenAt bindings front token back ∧
      template.command bindings = Piece.command front ++ token ++ Piece.command back := by
  obtain ⟨front, token, back, stands, written⟩ := leaves
  refine ⟨front, token, back, stands, ?_⟩
  rw [command, written]
  simp [Piece.command, Piece.text, String.append_assoc]

theorem pieces_of_split {before after : List Segment} {segment : Segment}
    (split : template.segments = before ++ segment :: after) :
    template.pieces bindings = before.flatMap (template.segmentPieces bindings) ++
      (template.segmentPieces bindings segment ++
        after.flatMap (template.segmentPieces bindings)) := by
  rw [pieces, split, List.flatMap_append, List.flatMap_cons]

theorem boundInput?_ne_none {segment : Segment} {name : String}
    (resolved : template.unresolvedNames = []) (known : segment ∈ template.segments)
    (mentioned : name ∈ segment.references) : template.boundInput? name ≠ none := by
  intro unbound
  have reported : name ∈ template.unresolvedNames :=
    List.mem_filter.2 ⟨Segment.mem_names known mentioned, by rw [unbound]; rfl⟩
  rw [resolved] at reported
  cases reported

/-- The value of an input is not the text of the author. -/
theorem referencePiece_ne_author {name : String} (bound : template.boundInput? name ≠ none)
    (text : String) : template.referencePiece bindings name ≠ .author text := by
  obtain ⟨input, bound⟩ := Option.ne_none_iff_exists'.1 bound
  unfold referencePiece
  rw [bound]
  dsimp only
  unfold Input.piece Input.pieceOf
  split
  · nofun
  · nofun

theorem mem_references_of_select {cond : Conditional} {value name : String}
    (member : .ref name ∈ cond.select value) : name ∈ (Segment.conditional cond).references := by
  have listed {parts : List Part} (member : .ref name ∈ parts) : name ∈ Part.references parts :=
    List.mem_filterMap.2 ⟨_, member, rfl⟩
  rcases cond.select_mem value with selected | ⟨branch, known, selected⟩
  · rw [selected] at member
    exact List.mem_append_right _ (listed member)
  · rw [selected] at member
    have inBranches :
        name ∈ cond.branches.flatMap fun branch => Part.references branch.body :=
      List.mem_flatMap.2 ⟨branch, known, listed member⟩
    exact List.mem_append_left _ (List.mem_cons_of_mem _ inBranches)

/-- A conditional on an input does not give its own text. -/
theorem segmentPieces_ne_raw {cond : Conditional} (resolved : template.unresolvedNames = [])
    (known : .conditional cond ∈ template.segments) :
    template.segmentPieces bindings (.conditional cond) ≠ [.author cond.raw] := by
  have head : template.boundInput? cond.name ≠ none :=
    boundInput?_ne_none resolved known List.mem_cons_self
  obtain ⟨input, head⟩ := Option.ne_none_iff_exists'.1 head
  intro written
  simp only [segmentPieces, head] at written
  -- The conditional would have to select its own text, which is too long.
  obtain ⟨part, selected, written⟩ := List.map_eq_singleton_iff.1 written
  have member : part ∈ cond.select (input.value bindings) := by
    rw [selected]
    exact List.mem_singleton_self part
  cases part with
  | text content =>
    have shorter := Segment.length_lt_raw known member
    cases written
    exact Nat.lt_irrefl _ shorter
  | ref name =>
    have bound := boundInput?_ne_none resolved known (mem_references_of_select member)
    exact referencePiece_ne_author bound _ written

theorem not_leavesToken (resolved : template.unresolvedNames = []) :
    ¬ template.LeavesToken bindings := by
  rintro ⟨front, token, back, stands, written⟩
  cases stands with
  | @simple before after name split =>
    have known : .simple name ∈ template.segments := split ▸ List.mem_append_cons_self
    have bound := boundInput?_ne_none resolved known (List.mem_singleton_self _)
    rw [pieces_of_split split] at written
    have same := List.append_cancel_left written
    exact referencePiece_ne_author bound _ (List.cons.inj same).1
  | @conditional before after cond split =>
    have known : .conditional cond ∈ template.segments := split ▸ List.mem_append_cons_self
    rw [pieces_of_split split] at written
    have same := List.append_cancel_left written
    have own : template.segmentPieces bindings (.conditional cond) = [.author cond.raw] :=
      List.append_cancel_right same
    exact segmentPieces_ne_raw resolved known own
  | @nested before after cond input first last name split head selected =>
    have known : .conditional cond ∈ template.segments := split ▸ List.mem_append_cons_self
    have member : .ref name ∈ cond.select (input.value bindings) :=
      selected ▸ List.mem_append_cons_self
    have bound := boundInput?_ne_none resolved known (mem_references_of_select member)
    rw [pieces_of_split split] at written
    simp only [segmentPieces, head, selected, List.map_append, List.map_cons, List.append_assoc,
      List.cons_append] at written
    have same := List.append_cancel_left (List.append_cancel_left written)
    exact referencePiece_ne_author bound _ (List.cons.inj same).1

theorem unresolvedError_eq (name : String) :
    unresolvedError name = "Unresolved token \x7b" ++ name ++ "\x7d" := by
  have opening : "Unresolved token " ++ "\x7b" = "Unresolved token \x7b" := by decide
  calc unresolvedError name
      = "Unresolved token " ++ ("\x7b" ++ name ++ "\x7d") := rfl
    _ = "Unresolved token " ++ "\x7b" ++ name ++ "\x7d" := by
      rw [String.append_assoc, String.append_assoc, String.append_assoc]
    _ = "Unresolved token \x7b" ++ name ++ "\x7d" := by rw [opening]

/-- To be strict changes no command and adds an error for each name without input. These are the
names that lint reports, each once. Without any, whatever the values, the command is the text of
pieces none of which is a token that is left in its place. -/
theorem synthesize_strict (template : Template) (bindings : Bindings) (now later : Instant) :
    (template.synthesize bindings true now).command =
        (template.synthesize bindings false later).command ∧
      (template.synthesize bindings true now).errors =
        (template.synthesize bindings false later).errors ++
          template.unresolvedNames.map (fun name => "Unresolved token \x7b" ++ name ++ "\x7d") ∧
      template.unresolvedNames.Nodup ∧
      template.lint.filterMap unmatchedName? = template.unresolvedNames ∧
      (template.unresolvedNames = [] → ∀ other strict moment,
        (template.synthesize other strict moment).command =
            Piece.command (template.pieces other) ∧
          ¬ template.LeavesToken other) := by
  refine ⟨rfl, ?_, nodup_unresolvedNames, filterMap_lint, ?_⟩
  · have texts : (fun name => "Unresolved token \x7b" ++ name ++ "\x7d") = unresolvedError := by
      funext name
      exact (unresolvedError_eq name).symm
    have plain :
        (template.synthesize bindings false later).errors = template.inputErrors bindings :=
      List.append_nil _
    rw [plain, texts]
    rfl
  · intro resolved other strict moment
    exact ⟨rfl, not_leavesToken resolved⟩

/-- Two inputs have one name, which is also that of a conditional and of a reference in it. -/
def processes : Template where
  id := "processes"
  name := "Processes"
  category := "system"
  inputs := [
    { name := "user", label := "User", kind := .select },
    { name := "user", label := "Owner" }]
  text := "ps \x7buser|:-e|-u \x7buser\x7d\x7d"

theorem synthesize_strict_processes :
    processes.unresolvedNames = [] ∧ ∀ other, ¬ processes.LeavesToken other := by
  have resolved : processes.unresolvedNames = [] := by decide +kernel
  obtain ⟨-, -, -, -, clean⟩ := processes.synthesize_strict .empty .epoch .epoch
  exact ⟨resolved, fun other => (clean resolved other true .epoch).2⟩

/-- A reference is left in the command when its input is missing. -/
example : LeavesToken { processes with inputs := [], text := "kill \x7bpid\x7d" } .empty :=
  ⟨_, _, _, @TokenAt.simple _ _ [.literal "kill "] [] "pid" (by decide +kernel),
    by decide +kernel⟩

end Template

end CommandSynthesis
