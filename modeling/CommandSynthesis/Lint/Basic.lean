import CommandSynthesis.Synthesis.Piece

set_option autoImplicit false

/-!
# Lint

What is wrong with a template as such, whatever values it is given: names without input, inputs
without use, and select inputs whose choices do not fit.
-/

namespace CommandSynthesis

inductive Severity where
  | error
  | warning
  deriving DecidableEq, Repr, Inhabited

structure LintIssue where
  templateId : String
  severity : Severity
  message : String
  deriving DecidableEq, Repr

namespace Severity

def name : Severity → String
  | error => "error"
  | warning => "warning"

end Severity

namespace LintIssue

def isError (issue : LintIssue) : Bool :=
  issue.severity = .error

def describe (issue : LintIssue) : String :=
  issue.severity.name ++ ": [" ++ issue.templateId ++ "] " ++ issue.message

end LintIssue

/-- The members of a list that came before in it, in order. -/
def repeats (seen : List String) : List String → List String
  | [] => []
  | name :: rest =>
    if seen.contains name then name :: repeats seen rest else repeats (name :: seen) rest

namespace Template

def lintError (template : Template) (message : String) : LintIssue :=
  ⟨template.id, .error, message⟩

def lintWarning (template : Template) (message : String) : LintIssue :=
  ⟨template.id, .warning, message⟩

/-- Inputs that have the name of an earlier one. -/
def duplicateInputs (template : Template) : List LintIssue :=
  (repeats [] (template.inputs.map Input.name)).map fun name =>
    template.lintError ("duplicate input '" ++ name ++ "'")

/-- Names in the text that no input has. -/
def unmatchedTokens (template : Template) (names : List String) : List LintIssue :=
  (names.filter fun name => (template.findInput? name).isNone).map fun name =>
    template.lintError ("token " ++ referenceText name ++ " has no matching input")

/-- What is wrong with an input: that nothing refers to it, or that its choices do not fit. -/
def inputIssues (template : Template) (names : List String) (input : Input) : List LintIssue :=
  let unused :=
    if names.contains input.name then []
    else
      [template.lintWarning ("input '" ++ input.name ++ "' is never used in the template")]
  let unchosen :=
    if input.isSelect ∧ input.choices.isEmpty then
      [template.lintError ("select input '" ++ input.name ++ "' has no choices")]
    else []
  let default :=
    match input.defaultValue with
    | none => []
    | some value =>
      if input.isSelect ∧ ¬ input.choices.isEmpty ∧ ¬ input.choices.contains value then
        [template.lintWarning ("default '" ++ value ++ "' of '" ++ input.name
          ++ "' is not one of its choices")]
      else []
  unused ++ unchosen ++ default

/-- The values of branches that are no choices of the input. -/
def branchIssues (template : Template) (cond : Conditional) : List LintIssue :=
  match template.findInput? cond.name with
  | none => []
  | some input =>
    if input.isSelect ∧ ¬ input.choices.isEmpty then
      (cond.branches.filter fun branch => ¬ input.choices.contains branch.value).map fun branch =>
        template.lintWarning ("case '" ++ branch.value ++ "' in \x7b" ++ cond.name
          ++ "|...\x7d is not a choice of '" ++ input.name ++ "'")
    else []

def lint (template : Template) : List LintIssue :=
  let names := Segment.names template.segments
  template.duplicateInputs ++ template.unmatchedTokens names
    ++ template.inputs.flatMap (template.inputIssues names)
    ++ (Segment.conditionals template.segments).flatMap template.branchIssues

end Template

/-- What is wrong with some templates, of which some ids have been seen before. -/
def lintFrom (seen : List String) : List Template → List LintIssue
  | [] => []
  | template :: rest =>
    let duplicate :=
      if seen.contains template.id then
        [template.lintError ("duplicate template id '" ++ template.id ++ "'")]
      else []
    duplicate ++ template.lint ++ lintFrom (template.id :: seen) rest

/-- What is wrong with some templates, ids that occur twice included. -/
def lintAll (templates : List Template) : List LintIssue :=
  lintFrom [] templates

end CommandSynthesis
