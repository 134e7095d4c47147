import CommandSynthesis.Template.Basic
import CommandSynthesis.Validator.Codec

set_option autoImplicit false

/-!
# Templates as JSON

Absent members have defaults, and members with nothing to say are left out when a template is
written.
-/

namespace CommandSynthesis

namespace InputKind

def table : List (String × InputKind) :=
  [("text", text), ("textarea", textarea), ("select", select)]

def encode (kind : InputKind) : Json :=
  .string kind.name

def decode : Decoder InputKind :=
  Decoder.variant table

end InputKind

namespace DangerLevel

/-- The levels by name; the highest has a second name. -/
def table : List (String × DangerLevel) :=
  [("safe", safe), ("caution", caution), ("dangerous", dangerous), ("high", dangerous)]

def encode (level : DangerLevel) : Json :=
  .string level.name

def decode : Decoder DangerLevel :=
  Decoder.variant table

end DangerLevel

/-- A member for a value that may be absent. -/
def optionalMember (name : String) (value : Option Json) : List (String × Json) :=
  (value.map fun value => (name, value)).toList

/-- A member for texts, left out when there are none. -/
def textsMember (name : String) (texts : List String) : List (String × Json) :=
  if texts.isEmpty then [] else [(name, .ofStrings texts)]

namespace Input

def encodeValidator : Option Validator → Except EncodeError (Option Json)
  | none => .ok none
  | some validator => validator.encode.map some

def encode (input : Input) : Except EncodeError Json := do
  let validator ← encodeValidator input.validator
  return .object ([
      ("name", .string input.name),
      ("label", .string input.label),
      ("kind", input.kind.encode)]
    ++ optionalMember "default_value" (input.defaultValue.map .string)
    ++ [("required", .bool input.required)]
    ++ textsMember "choices" input.choices
    ++ optionalMember "validator" validator
    ++ optionalMember "placeholder" (input.placeholder.map .string)
    ++ optionalMember "help_text" (input.helpText.map .string))

def optionalText : Decoder (Option String) :=
  Decoder.nullable Decoder.string

def fields : List Field :=
  [.mandatory "name" Decoder.string,
    .mandatory "label" Decoder.string,
    .optional "kind" InputKind.decode,
    .optional "default_value" optionalText,
    .optional "required" Decoder.bool,
    .optional "choices" (Decoder.list Decoder.string),
    .optional "validator" (Decoder.nullable Validator.decode),
    .optional "placeholder" optionalText,
    .optional "help_text" optionalText]

def decode : Decoder Input := fun origin value => do
  let record ← Record.read "struct InputSpec" fields origin value
  return {
    name := ← record.require "name" Decoder.string
    label := ← record.require "label" Decoder.string
    kind := ← record.get "kind" InputKind.decode .text
    defaultValue := ← record.get "default_value" optionalText none
    required := ← record.get "required" Decoder.bool false
    choices := ← record.get "choices" (Decoder.list Decoder.string) []
    validator := ← record.get "validator" (Decoder.nullable Validator.decode) none
    placeholder := ← record.get "placeholder" optionalText none
    helpText := ← record.get "help_text" optionalText none }

end Input

namespace Template

def encode (template : Template) : Except EncodeError Json := do
  let inputs ← template.inputs.mapM Input.encode
  return .object ([
      ("id", .string template.id),
      ("name", .string template.name),
      ("description", .string template.description),
      ("category", .string template.category),
      ("danger_level", template.dangerLevel.encode),
      ("inputs", .array inputs),
      ("template_text", .string template.text)]
    ++ textsMember "examples" template.examples
    ++ textsMember "notes" template.notes)

def fields : List Field :=
  [.mandatory "id" Decoder.string,
    .mandatory "name" Decoder.string,
    .optional "description" Decoder.string,
    .mandatory "category" Decoder.string,
    .optional "danger_level" DangerLevel.decode,
    .optional "inputs" (Decoder.list Input.decode),
    .mandatory "template_text" Decoder.string,
    .optional "examples" (Decoder.list Decoder.string),
    .optional "notes" (Decoder.list Decoder.string)]

def decode : Decoder Template := fun origin value => do
  let record ← Record.read "struct TemplateDefinition" fields origin value
  return {
    id := ← record.require "id" Decoder.string
    name := ← record.require "name" Decoder.string
    description := ← record.get "description" Decoder.string ""
    category := ← record.require "category" Decoder.string
    dangerLevel := ← record.get "danger_level" DangerLevel.decode .safe
    inputs := ← record.get "inputs" (Decoder.list Input.decode) []
    text := ← record.require "template_text" Decoder.string
    examples := ← record.get "examples" (Decoder.list Decoder.string) []
    notes := ← record.get "notes" (Decoder.list Decoder.string) [] }

end Template

end CommandSynthesis
