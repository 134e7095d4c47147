import CommandSynthesis.Decimal.Digits

set_option autoImplicit false

/-!
# Errors in regular expressions

What is wrong with a regular expression, the part of it that is at fault, and the report that shows
the expression with that part underlined. An expression of several lines is shown between rules
with its lines numbered.
-/

namespace CommandSynthesis.Regex

/-- A part of an expression: the characters from `start` up to, but not including, `stop`. -/
structure Span where
  start : Nat
  stop : Nat
  deriving DecidableEq, Repr, Inhabited

inductive Cause where
  | classEscapeInvalid
  | classRangeInvalid
  | classRangeLiteral
  | classUnclosed
  | decimalInvalid
  | escapeHexEmpty
  | escapeHexInvalid
  | escapeHexInvalidDigit
  | escapeUnexpectedEnd
  | escapeUnrecognized
  | flagDanglingNegation
  | flagDuplicate
  | flagRepeatedNegation
  | flagUnexpectedEnd
  | flagUnrecognized
  | groupNameDuplicate
  | groupNameEmpty
  | groupNameInvalid
  | groupNameUnexpectedEnd
  | groupUnclosed
  | groupUnopened
  | nestedTooDeep (limit : Nat)
  | repetitionCountInvalid
  | repetitionCountEmpty
  | repetitionCountUnclosed
  | repetitionMissing
  | wordBoundaryUnclosed
  | wordBoundaryUnrecognized
  | wordBoundaryUnexpectedEnd
  | propertyInvalid
  | backreference
  | lookAround
  | propertyNotAllowed
  | invalidUtf8
  | propertyNotFound
  | propertyValueNotFound
  deriving DecidableEq, Repr

namespace Cause

def message : Cause → String
  | classEscapeInvalid => "invalid escape sequence found in character class"
  | classRangeInvalid => "invalid character class range, the start must be <= the end"
  | classRangeLiteral => "invalid range boundary, must be a literal"
  | classUnclosed => "unclosed character class"
  | decimalInvalid => "decimal literal invalid"
  | escapeHexEmpty => "hexadecimal literal empty"
  | escapeHexInvalid => "hexadecimal literal is not a Unicode scalar value"
  | escapeHexInvalidDigit => "invalid hexadecimal digit"
  | escapeUnexpectedEnd => "incomplete escape sequence, reached end of pattern prematurely"
  | escapeUnrecognized => "unrecognized escape sequence"
  | flagDanglingNegation => "dangling flag negation operator"
  | flagDuplicate => "duplicate flag"
  | flagRepeatedNegation => "flag negation operator repeated"
  | flagUnexpectedEnd => "expected flag but got end of regex"
  | flagUnrecognized => "unrecognized flag"
  | groupNameDuplicate => "duplicate capture group name"
  | groupNameEmpty => "empty capture group name"
  | groupNameInvalid => "invalid capture group character"
  | groupNameUnexpectedEnd => "unclosed capture group name"
  | groupUnclosed => "unclosed group"
  | groupUnopened => "unopened group"
  | nestedTooDeep limit =>
    "exceed the maximum number of nested parentheses/brackets (" ++ Decimal.ofNat limit ++ ")"
  | repetitionCountInvalid =>
    "invalid repetition count range, the start must be <= the end"
  | repetitionCountEmpty => "repetition quantifier expects a valid decimal"
  | repetitionCountUnclosed => "unclosed counted repetition"
  | repetitionMissing => "repetition operator missing expression"
  | wordBoundaryUnclosed =>
    "special word boundary assertion is either unclosed or contains an invalid character"
  | wordBoundaryUnrecognized =>
    "unrecognized special word boundary assertion, valid choices are: start, end, start-half or " ++
      "end-half"
  | wordBoundaryUnexpectedEnd =>
    "found either the beginning of a special word boundary or a bounded repetition on a \\b " ++
      "with an opening brace, but no closing brace"
  | propertyInvalid => "invalid Unicode character class"
  | backreference => "backreferences are not supported"
  | lookAround => "look-around, including look-ahead and look-behind, is not supported"
  | propertyNotAllowed => "Unicode not allowed here"
  | invalidUtf8 => "pattern can match invalid UTF-8"
  | propertyNotFound => "Unicode property not found"
  | propertyValueNotFound => "Unicode property value not found"

end Cause

/-- An error in an expression: the part at fault and, where something is given twice, the place
where it was given first. -/
structure Error where
  cause : Cause
  span : Span
  first : Option Span
  deriving DecidableEq, Repr

/-- A place in an expression, both numbers counted from one. -/
structure Place where
  line : Nat
  column : Nat
  deriving DecidableEq, Repr

namespace Place

def after (before : List Char) : Place :=
  let column := (before.reverse.takeWhile (· ≠ '\n')).length + 1
  ⟨before.count '\n' + 1, column⟩

end Place

namespace Error

/-- The lines of an expression. A break at the end begins no line, and a carriage return before a
break belongs to the break. -/
def lines (pattern : List Char) : List (List Char) :=
  let pieces := pattern.splitOn '\n'
  let pieces := if pieces.getLast? = some [] then pieces.dropLast else pieces
  pieces.map fun piece => if piece.getLast? = some '\r' then piece.dropLast else piece

/-- Underlines the columns given by their first and the one after their last, from a column on. -/
def underline (column : Nat) : List (Nat × Nat) → List Char
  | [] => []
  | (first, last) :: rest =>
    let width := max 1 (last - first)
    List.replicate (first - column) ' ' ++ List.replicate width '^'
      ++ underline (max column first + width) rest

/-- The parts at fault in the order in which they stand. -/
def spans (error : Error) : List Span :=
  match error.first with
  | none => [error.span]
  | some first =>
    if first.start < error.span.start ∨
        (first.start = error.span.start ∧ first.stop ≤ error.span.stop) then
      [first, error.span]
    else [error.span, first]

def places (error : Error) (pattern : List Char) : List (Place × Place) :=
  error.spans.map fun span => (.after (pattern.take span.start), .after (pattern.take span.stop))

def columns (places : List (Place × Place)) (line : Nat) : List (Nat × Nat) :=
  (places.filter fun (first, last) => first.line = last.line ∧ first.line = line).map
    fun (first, last) => (first.column, last.column)

/-- A number of a line, with blanks in front up to a width. -/
def lineNumber (width line : Nat) : List Char :=
  let text := Decimal.digits line
  List.replicate (width - text.length) ' ' ++ text

/-- The lines of an expression, each after its number or an indentation, and below each the
underlines of the parts at fault in it. -/
def notate (places : List (Place × Place)) (width line : Nat) : List (List Char) → List Char
  | [] => []
  | text :: rest =>
    let margin := if width = 0 then List.replicate 4 ' ' else lineNumber width line ++ [':', ' ']
    let marked := columns places line
    let notes :=
      if marked.isEmpty then []
      else List.replicate margin.length ' ' ++ underline 1 marked ++ ['\n']
    margin ++ text ++ '\n' :: notes ++ notate places width (line + 1) rest

/-- What is said of a part at fault that covers several lines. -/
def lineNote (first last : Place) : String :=
  "on line " ++ Decimal.ofNat first.line ++ " (column " ++ Decimal.ofNat first.column
    ++ ") through line " ++ Decimal.ofNat last.line ++ " (column "
    ++ Decimal.ofNat (last.column - 1) ++ ")"

/-- The report of an error in an expression. -/
def report (error : Error) (pattern : String) : String :=
  let chars := pattern.toList
  let places := error.places chars
  let head := "regex parse error:\n"
  let tail := "error: " ++ error.cause.message
  if chars.contains '\n' then
    let count := (lines chars).length + if chars.getLast? = some '\n' then 1 else 0
    let width := if count ≤ 1 then 0 else (Decimal.digits count).length
    let rule := String.ofList (List.replicate 79 '~' ++ ['\n'])
    let notes := (places.filter fun (first, last) => first.line ≠ last.line).map
      fun (first, last) => lineNote first last
    let notes := if notes.isEmpty then "" else "\n".intercalate notes ++ "\n"
    head ++ rule ++ String.ofList (notate places width 1 (lines chars)) ++ rule ++ notes ++ tail
  else head ++ String.ofList (notate places 0 1 (lines chars)) ++ tail

end Error

end CommandSynthesis.Regex
