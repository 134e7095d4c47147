import CommandSynthesis.Decimal.Digits
import CommandSynthesis.Json.Outline
import CommandSynthesis.Json.Printer
import CommandSynthesis.Text.Escaped

set_option autoImplicit false

/-!
# Mismatches

Why a value that can be read is not one of the expected type, and how this is said.
-/

namespace CommandSynthesis

/-- What keeps a value from being one of a type. -/
inductive Mismatch where
  /-- A value of another kind. -/
  | kind (found expected : String)
  /-- A value of the right kind that is not allowed. -/
  | value (found expected : String)
  /-- A list with the wrong number of items. -/
  | length (count : Nat) (expected : String)
  | missingField (name : String)
  | duplicateField (name : String)
  | unknownVariant (name : String) (known : List String)
  | other (reason : String)
  deriving DecidableEq, Repr

namespace Mismatch

def quoted (name : String) : String :=
  "\x60" ++ name ++ "\x60"

/-- The names that are allowed, as a phrase. -/
def oneOf : List String → String
  | [] => "there are no variants"
  | [name] => "expected " ++ quoted name
  | [first, second] => "expected " ++ quoted first ++ " or " ++ quoted second
  | names => "expected one of " ++ ", ".intercalate (names.map quoted)

def message : Mismatch → String
  | kind found expected => "invalid type: " ++ found ++ ", expected " ++ expected
  | value found expected => "invalid value: " ++ found ++ ", expected " ++ expected
  | length count expected =>
    "invalid length " ++ Decimal.ofNat count ++ ", expected " ++ expected
  | missingField name => "missing field " ++ quoted name
  | duplicateField name => "duplicate field " ++ quoted name
  | unknownVariant name known => "unknown variant " ++ quoted name ++ ", " ++ oneOf known
  | other reason => reason

end Mismatch

/-- Why a text or a value gives no value of a type: it is no JSON, or JSON of another type. -/
inductive Misfit where
  | fault (fault : Fault)
  | mismatch (mismatch : Mismatch)
  deriving DecidableEq, Repr

namespace Misfit

/-- The misfit of a list that stops early. -/
def stopped (stop : Option Fault) : Except Misfit Unit :=
  (Outline.stopped stop).mapError fault

end Misfit

/-- What a number is called in a message. -/
def Number.describe : Number → String
  | .integer value => "integer " ++ Mismatch.quoted (Decimal.ofInt value)
  | .real value => "floating point " ++ Mismatch.quoted value.print

/-- What a value is called in a message. -/
def Outline.describe : Outline → String
  | .null => "null"
  | .bool true => "boolean " ++ Mismatch.quoted "true"
  | .bool false => "boolean " ++ Mismatch.quoted "false"
  | .number value => ((value.map Number.describe).getD "number")
  | .string value => "string " ++ Text.escaped (value.getD "")
  | .array _ _ => "sequence"
  | .object _ _ => "map"
  | .broken _ => "nothing"

/-- The misfit of a value that is not what was expected; a value that cannot be used is a fault
first. -/
def Outline.refuse (expected : String) : Outline → Misfit
  | .broken stop => .fault stop.used
  | .number none => .fault .malformed
  | .string none => .fault .malformed
  | found => .mismatch (.kind found.describe expected)

end CommandSynthesis
