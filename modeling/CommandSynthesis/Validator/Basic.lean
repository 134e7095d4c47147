import CommandSynthesis.Regex.Compile
import CommandSynthesis.Text.Escaped
import CommandSynthesis.Validator.Checks

set_option autoImplicit false

/-!
# Validators

The rules that values can be held to. A rule is data, so that it can be written down and listed;
only a custom rule is a function under a name.
-/

namespace CommandSynthesis

inductive Validator where
  | path
  | pattern
  /-- A number between two bounds, both included. -/
  | numberRange (low high : Int64)
  | identifier
  | keyword
  | notBlank (message : String)
  /-- A text in which a regular expression matches. -/
  | regex (expression message : String)
  | custom (name : String) (check : String → Verdict)

namespace Validator

/-- The verdict of a regular expression. One that cannot be compiled refuses every value. -/
def matchVerdict (expression message value : String) : Verdict :=
  match Regex.compile expression with
  | .ok compiled => .check (compiled.isMatch value.toList) message
  | .error refusal =>
    .refuse ("Invalid validation pattern '" ++ expression ++ "': " ++ refusal.report expression)

def validate (validator : Validator) (value : String) : Verdict :=
  match validator with
  | path => Check.path value
  | pattern => Check.pattern value
  | numberRange low high => Check.number value low high
  | identifier => Check.identifier value
  | keyword => Check.keyword value
  | notBlank message => Check.notBlank value message
  | regex expression message => matchVerdict expression message value
  | custom _ check => check value

def describe : Validator → String
  | path => "absolute path"
  | pattern => "file name pattern"
  | numberRange low high =>
    "integer " ++ Decimal.ofInt low.toInt ++ "-" ++ Decimal.ofInt high.toInt
  | identifier => "identifier"
  | keyword => "keyword without quotes"
  | notBlank _ => "non-empty"
  | regex expression _ => "matches " ++ expression
  | custom name _ => "custom (" ++ name ++ ")"

def customName? : Validator → Option String
  | custom name _ => some name
  | _ => none

/-- How a custom rule is shown: its function cannot be. -/
def showCustom (name : String) : String :=
  "CustomValidator \x7b name: " ++ Text.escaped name ++ ", .. \x7d"

end Validator

end CommandSynthesis
