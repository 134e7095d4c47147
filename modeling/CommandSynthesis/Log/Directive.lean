import CommandSynthesis.Decimal.Digits
import CommandSynthesis.Log.Basic
import CommandSynthesis.Regex.Form
import CommandSynthesis.Text.Blank
import CommandSynthesis.Text.Part
import CommandSynthesis.Unicode.Recent

set_option autoImplicit false

/-!
# Log directives

A directive says up to which level events are logged, and may hold only for events whose source
begins with a text, inside a span, or with a certain field. Events have one field, their message,
and are never inside a span.

Blanks around a directive do not count while the places of its parts are found, but the parts are
then taken from the whole text at those places. So a blank in front moves all parts.
-/

namespace CommandSynthesis.Log

/-- Up to which level events are logged, as the rank of that level; nothing is logged at 0. -/
abbrev Threshold := Nat

/-- A field that an event must have, and whether a value is asked of it. -/
structure Field where
  name : String
  valued : Bool
  deriving DecidableEq, Repr

structure Directive where
  /-- What the name of the source must begin with. -/
  source : Option String
  /-- The span that an event must be in. -/
  span : Option String
  field : Option Field
  threshold : Threshold
  deriving DecidableEq, Repr

/-- Why a text is no value of a field. -/
inductive FieldError where
  | malformedPattern
  /-- Words are bounded by characters beyond ASCII, too. -/
  | unsupportedPattern
  deriving DecidableEq, Repr

inductive DirectiveError where
  | malformed
  | unknownLevel
  | field (error : FieldError)
  deriving DecidableEq, Repr

def FieldError.message : FieldError → String
  | malformedPattern => "error building NFA"
  | unsupportedPattern => "unsupported regex feature for DFAs"

def DirectiveError.message : DirectiveError → String
  | malformed => "invalid filter directive"
  | unknownLevel =>
    "error parsing level filter: expected one of \"off\", \"error\", \"warn\", \"info\", "
      ++ "\"debug\", \"trace\", or a number 0-5"
  | field error => "invalid field filter: " ++ error.message

namespace Threshold

/-- The names of the levels in lower case, by rank. -/
def names : List String := ["off", "error", "warn", "info", "debug", "trace"]

/-- The threshold that a name or a number stands for. -/
def ofText? (text : List Char) : Option Threshold :=
  let number := (if text.head? = some '-' then none else Decimal.integer? text).map Int.toNat
  match number.filter (· ≤ 5) with
  | some rank => some rank
  | none =>
    let index := names.idxOf (String.ofList (text.map Char.toLower))
    if index < names.length then some index else none

end Threshold

namespace Field

/-- Whether a value is a number that could not be read as a pattern. -/
def isSignedNumber : List Char → Bool
  | '+' :: rest => Decimal.isReal rest
  | _ => false

/-- Why a text is no value that can be asked of a field: it is neither a number nor a pattern that
can be followed byte by byte. -/
def valueError? (value : List Char) : Option FieldError :=
  if isSignedNumber value then none
  else
    match Regex.Pattern.read (String.ofList value) with
    | .error _ => some .malformedPattern
    | .ok pattern =>
      if (Regex.Form.ofPattern pattern).looksBeyondAscii then some .unsupportedPattern else none

/-- Reads a field: a name or, before and after `=`, a name and a value. What follows a further `=`
does not count. -/
def read (text : List Char) : Except FieldError Field :=
  match text.splitOn '=' with
  | name :: value :: _ =>
    match valueError? value with
    | none => .ok ⟨String.ofList name, true⟩
    | some error => .error error
  | _ => .ok ⟨String.ofList text, false⟩

end Field

namespace Directive

/-- Whether a directive can begin with a character, apart from an opening bracket. -/
def canStart (c : Char) : Bool :=
  c = '-' || c = ':' || c = '_' || Unicode.Recent.isAlphanumeric c

/-- The directive for everything up to a level. -/
def global (threshold : Threshold) : Directive :=
  ⟨none, none, none, threshold⟩

/-- A part of the whole text of a directive. -/
def part (whole : List Char) (start stop : Nat) : Except DirectiveError (List Char) :=
  (Text.part? whole start stop).elim (.error .malformed) .ok

/-- Takes the level of a directive from a place on; a directive may do without one. -/
def readLevel (whole : List Char) (directive : Directive) (place : Nat) :
    Except DirectiveError Directive :=
  match Text.partFrom? whole place with
  | none => .error .malformed
  | some [] => .ok directive
  | some level =>
    match Threshold.ofText? level with
    | some threshold => .ok { directive with threshold }
    | none => .error .unknownLevel

/-- Reads what follows the closing bracket of a directive. -/
def readEnd (whole : List Char) (directive : Directive) (place : Nat) :
    List Char → Except DirectiveError Directive
  | [] => .ok directive
  | '=' :: _ => readLevel whole directive (place + 1)
  | _ => .error .malformed

/-- Reads the field between braces and what follows the brackets around it. -/
def readField (whole : List Char) (directive : Directive) (place : Nat) (text : List Char) :
    Except DirectiveError Directive := do
  let (inside, rest) := text.span (· ≠ '}')
  let stop := place + Text.byteLength inside
  match rest with
  | [] => .error .malformed
  | _ :: rest =>
    let inside ← part whole place stop
    if inside.isEmpty then throw .malformed
    let field ← (Field.read inside).mapError .field
    match rest with
    | ']' :: rest => readEnd whole { directive with field := some field } (stop + 2) rest
    | _ => throw .malformed

/-- Reads what is between brackets and what follows them. -/
def readSpan (whole : List Char) (directive : Directive) (place : Nat) (text : List Char) :
    Except DirectiveError Directive := do
  let (name, rest) := text.span fun c => c ≠ ']' && c ≠ '{'
  let stop := place + Text.byteLength name
  match rest with
  | [] => .error .malformed
  | mark :: rest =>
    let name ← part whole place stop
    let spanned := { directive with span := some (String.ofList name) }
    if mark = ']' then readEnd whole spanned (stop + 1) rest
    else readField whole (if name.isEmpty then directive else spanned) (stop + 1) rest

/-- The directive of a single word: its level or, if there is no such level, a source of which
everything is logged. -/
def ofWord (word : List Char) : Directive :=
  match Threshold.ofText? word with
  | some threshold => global threshold
  | none => { global Level.trace.rank with source := some (String.ofList word) }

def read (whole : List Char) : Except DirectiveError Directive := do
  let text := Text.trim whole
  let (word, rest) := text.span fun c => c ≠ '=' && c ≠ '['
  match text with
  | [] => .error .malformed
  | '[' :: inside => readSpan whole (global Level.trace.rank) 1 inside
  | first :: _ =>
    if ¬ canStart first then throw .malformed
    match rest with
    | [] => return ofWord whole
    | mark :: inside =>
      let stop := Text.byteLength word
      let source ← part whole 0 stop
      let directive := { global Level.trace.rank with source := some (String.ofList source) }
      if mark = '[' then readSpan whole directive (stop + 1) inside
      else readLevel whole directive (stop + 1)

/-- Whether a directive can hold for events outside all spans. -/
def isStatic (directive : Directive) : Bool :=
  directive.span.isNone && !directive.field.any (·.valued)

def holdsFor (directive : Directive) (event : Event) : Bool :=
  directive.isStatic &&
    directive.source.all (fun source => source.toList.isPrefixOf event.source.name.toList) &&
    directive.field.all (fun field => field.name = "message")

/-- How specific a directive is: the length of its source, if it has one, counts first. -/
def specificity (directive : Directive) : Nat :=
  let source := (directive.source.map fun source => source.length + 1).getD 0
  2 * source + if directive.field.isSome then 1 else 0

end Directive

end CommandSynthesis.Log
