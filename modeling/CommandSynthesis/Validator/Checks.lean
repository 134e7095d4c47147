import CommandSynthesis.Decimal.Digits
import CommandSynthesis.Text.Blank
import CommandSynthesis.Text.Part
import CommandSynthesis.Validator.Verdict

set_option autoImplicit false

/-!
# Checks of values

The checks that need no expression: paths, file name patterns, numbers in a range, identifiers and
keywords. Each says what is wrong with the value first.
-/

namespace CommandSynthesis.Check

/-- Where file systems that are not made of files are mounted. -/
def deniedRoots : List String := ["/dev", "/proc", "/sys"]

/-- A path must be absolute and must not start like a denied root. -/
def path (value : String) : Verdict :=
  if Text.isBlankText value then .refuse "Path cannot be empty"
  else if ¬ ['/'].isPrefixOf value.toList then
    .refuse "Path must be absolute (start with /)"
  else if deniedRoots.any fun root => root.toList.isPrefixOf value.toList then
    .refuse "This path may contain system files that could cause issues"
  else .accept

/-- A file name pattern must stay within a directory. -/
def pattern (value : String) : Verdict :=
  if Text.isBlankText value then .refuse "Pattern cannot be empty"
  else if Text.occursIn ['.', '.'] value.toList ∨ value.toList.contains '/' then
    .refuse "Pattern should not contain path traversal characters"
  else .accept

/-- The signed number of 64 bits that a text stands for. -/
def number? (text : List Char) : Option Int :=
  (Decimal.integer? text).filter fun n => -0x8000000000000000 ≤ n && n < 0x8000000000000000

/-- A number must lie between two bounds, both included. -/
def number (value : String) (low high : Int64) : Verdict :=
  match number? (Text.trim value.toList) with
  | none => .refuse "Must be a valid number"
  | some n =>
    if low.toInt ≤ n ∧ n ≤ high.toInt then .accept
    else
      .refuse ("Must be between " ++ Decimal.ofInt low.toInt ++ " and "
        ++ Decimal.ofInt high.toInt)

def isIdentifierChar (c : Char) : Bool :=
  c.isAlphanum || c = '-' || c = '_'

/-- An identifier consists of letters, digits, hyphens and underscores. -/
def identifier (value : String) : Verdict :=
  if Text.isBlankText value then .refuse "Service name cannot be empty"
  else if ¬ value.toList.all isIdentifierChar then
    .refuse "Service name can only contain letters, numbers, hyphens, and underscores"
  else .accept

/-- A keyword holds no quotes. -/
def keyword (value : String) : Verdict :=
  if Text.isBlankText value then .refuse "Search keyword cannot be empty"
  else if value.toList.contains '"' ∨ value.toList.contains '\'' then
    .refuse "Keyword should not contain quotes"
  else .accept

/-- A value must not be blank; what is said otherwise is up to the caller. -/
def notBlank (value message : String) : Verdict :=
  .check (!Text.isBlankText value) message

end CommandSynthesis.Check
