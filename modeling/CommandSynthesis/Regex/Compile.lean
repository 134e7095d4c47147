import CommandSynthesis.Regex.Match
import CommandSynthesis.Regex.Machine

set_option autoImplicit false

/-!
# Compiling expressions

An expression is compiled to a pattern that can be matched. It is refused if it cannot be read, or
if its machines would take too much memory.
-/

namespace CommandSynthesis.Regex

inductive Refusal where
  | malformed (error : Error)
  | tooLarge (limit : Nat)
  deriving DecidableEq, Repr

/-- What is said of an expression that is refused. -/
def Refusal.report (expression : String) : Refusal → String
  | malformed error => error.report expression
  | tooLarge limit => "Compiled regex exceeds size limit of " ++ Decimal.ofNat limit ++ " bytes."

/-- The pattern of an expression, if it is not refused. -/
def compile (expression : String) : Except Refusal (Pattern Step) :=
  match Pattern.read expression with
  | .error error => .error (.malformed error)
  | .ok pattern =>
    if (Form.ofPattern pattern).fits then .ok pattern else .error (.tooLarge Extent.limit)

end CommandSynthesis.Regex
