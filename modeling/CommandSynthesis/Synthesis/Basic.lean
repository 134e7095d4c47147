import CommandSynthesis.Synthesis.Piece
import CommandSynthesis.Time.Instant

set_option autoImplicit false

/-!
# Synthesis

A template and values for its inputs give a command and a list of what is wrong with the values. The
command is there in any case; it is valid when nothing is wrong.
-/

namespace CommandSynthesis

/-- A command with what was found wrong while it was made. -/
structure Synthesis where
  command : String
  valid : Bool
  errors : List String
  createdAt : Instant
  templateId : String
  deriving DecidableEq, Repr

namespace Input

/-- What is wrong with an input that has a value. A blank value is wrong only if one is required,
and is held to no rule. -/
def errorOf? (input : Input) (value : String) : Option String :=
  if Text.isBlankText value then
    if input.required then some (input.label ++ " is required") else none
  else
    match input.validator with
    | none => none
    | some validator =>
      let verdict := validator.validate value
      if verdict.valid then none
      else verdict.message.map fun message => input.label ++ ": " ++ message

/-- What is wrong with the value of an input. -/
def error? (input : Input) (bindings : Bindings) : Option String :=
  input.errorOf? (input.value bindings)

end Input

namespace Template

/-- What is wrong with the values, input by input. -/
def inputErrors (template : Template) (bindings : Bindings) : List String :=
  template.inputs.filterMap (·.error? bindings)

/-- The names in the text of a template that no input has. -/
def unresolvedNames (template : Template) : List String :=
  (Segment.names template.segments).filter fun name => (template.boundInput? name).isNone

/-- What is said of a name that no input has. -/
def unresolvedError (name : String) : String :=
  "Unresolved token " ++ referenceText name

/-- What is wrong with values and, when asked to be strict, with the names in the template. -/
def errors (template : Template) (bindings : Bindings) (strict : Bool) : List String :=
  template.inputErrors bindings ++
    if strict then template.unresolvedNames.map unresolvedError else []

/-- Makes a command from values at a moment. -/
def synthesize (template : Template) (bindings : Bindings) (strict : Bool) (now : Instant) :
    Synthesis :=
  let errors := template.errors bindings strict
  { command := template.command bindings
    valid := errors.isEmpty
    errors
    createdAt := now
    templateId := template.id }

end Template

end CommandSynthesis
