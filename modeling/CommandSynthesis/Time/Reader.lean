import CommandSynthesis.Decimal.Digits
import CommandSynthesis.Text.Blank
import CommandSynthesis.Time.Instant

set_option autoImplicit false

/-!
# Reading instants

Every reader returns what it made of the front of a text and the text after it. The whole takes the
form of RFC 3339 and some of what is written for it: blanks around numbers, a sign before the year,
offsets without colon, and `UTC` for `Z`. A misfit is reported where it stands; that a day does not
exist is found last.
-/

namespace CommandSynthesis

inductive InstantError where
  | outOfRange
  | impossible
  | invalid
  | tooShort
  | tooLong
  deriving DecidableEq, Repr

namespace InstantError

def message : InstantError → String
  | outOfRange => "input is out of range"
  | impossible => "no possible date and time matching input"
  | invalid => "input contains invalid characters"
  | tooShort => "premature end of input"
  | tooLong => "trailing input"

end InstantError

namespace Instant

/-- A text without the blanks at its front. -/
def skipBlanks (text : List Char) : List Char :=
  text.dropWhile Text.isBlank

/-- Reads the digits at the front, at most `limit` of them if there is a limit. -/
def readDigits (limit : Option Nat) (text : List Char) :
    Except InstantError (List Char × List Char) :=
  match text with
  | [] => .error .tooShort
  | _ :: _ =>
    let run := (Decimal.spanDigits text).1
    let taken := match limit with
      | some limit => run.take limit
      | none => run
    if taken.isEmpty then .error .invalid else .ok (taken, text.drop taken.length)

/-- Reads a number of one or two digits between two bounds. -/
def readField (low high : Nat) (text : List Char) : Except InstantError (Nat × List Char) := do
  let (run, rest) ← readDigits (some 2) (skipBlanks text)
  let value := Decimal.value run
  if low ≤ value ∧ value ≤ high then return (value, rest) else throw .outOfRange

def readMark (mark : Char) : List Char → Except InstantError (List Char)
  | [] => .error .tooShort
  | c :: rest => if c = mark then .ok rest else .error .invalid

/-- Reads a year: four digits at most, or a sign and any number of digits. -/
def readYear (text : List Char) : Except InstantError (Int × List Char) := do
  let (negative, limit, text) :=
    match skipBlanks text with
    | '-' :: rest => (true, none, rest)
    | '+' :: rest => (false, none, rest)
    | text => (false, some 4, text)
  let (run, rest) ← readDigits limit text
  let year : Int := if negative then -Decimal.value run else Decimal.value run
  if -0x80000000 ≤ year ∧ year < 0x80000000 then return (year, rest) else throw .outOfRange

/-- Reads a fraction of a second in nanoseconds. Places after the ninth are dropped. -/
def readFraction : List Char → Except InstantError (Nat × List Char)
  | '.' :: text => do
    let (run, rest) ← readDigits none text
    let kept := run.take 9
    return (Decimal.value kept * Nat.pow 10 (9 - kept.length), rest)
  | text => .ok (0, text)

/-- Whether a text starts with the letters of `UTC` in either case. -/
def startsWithUtc (text : List Char) : Bool :=
  (text.take 3).map Char.toUpper == ['U', 'T', 'C']

/-- Takes two bytes from the front of a text. -/
def takePair (text : List Char) : Except InstantError ((Char × Char) × List Char) :=
  match text with
  | [] => .error .tooShort
  | [c] => .error (if c.utf8Size < 2 then .tooShort else .invalid)
  | a :: b :: rest => .ok ((a, b), rest)

/-- Reads two digits of an offset, the first not above a bound. -/
def readPair (limit : Char) (text : List Char) : Except InstantError (Nat × List Char) := do
  let ((a, b), rest) ← takePair text
  if ¬ (a.isDigit ∧ b.isDigit) then throw .invalid
  if limit < a then throw .outOfRange
  return (Decimal.value [a, b], rest)

def readOffset (text : List Char) : Except InstantError (Int × List Char) := do
  let (negative, text) ← match text with
    | [] => throw InstantError.tooShort
    | c :: rest =>
      if c = '+' then pure (false, rest)
      else if c = '-' ∨ c = '−' then pure (true, rest)
      else throw InstantError.invalid
  let (hours, text) ← readPair '9' text
  let (minutes, rest) ← readPair '5' (text.dropWhile fun c => c == ':' || Text.isBlank c)
  let offset : Int := 60 * hours + minutes
  return (if negative then -offset else offset, rest)

/-- Reads the zone at the end: universal time or an offset. -/
def readZone (text : List Char) : Except InstantError (Int × List Char) :=
  if startsWithUtc text then .ok (0, text.drop 3)
  else
    match text with
    | 'Z' :: rest => .ok (0, rest)
    | 'z' :: rest => .ok (0, rest)
    | text => readOffset text

def readSeparator : List Char → Except InstantError (List Char)
  | [] => .error .tooShort
  | c :: rest => if c = 't' ∨ c = 'T' ∨ c = ' ' then .ok rest else .error .invalid

def read (text : String) : Except InstantError Instant := do
  let (year, text) ← readYear text.toList
  let text ← readMark '-' (skipBlanks text)
  let (month, text) ← readField 1 12 text
  let text ← readMark '-' (skipBlanks text)
  let (day, text) ← readField 1 31 text
  let text ← readSeparator text
  let (hour, text) ← readField 0 23 text
  let text ← readMark ':' (skipBlanks text)
  let (minute, text) ← readField 0 59 text
  let text ← readMark ':' (skipBlanks text)
  let (second, text) ← readField 0 60 text
  let (fraction, text) ← readFraction text
  let (ahead, text) ← readZone (skipBlanks text)
  if ¬ (skipBlanks text).isEmpty then throw .tooLong
  let time :=
    if second = 60 then TimeOfDay.of? (60 * hour + minute) 59 (1000000000 + fraction)
    else TimeOfDay.of? (60 * hour + minute) second fraction
  match Date.of? year month day, time with
  | some date, some time =>
    if ahead.natAbs < 1440 then
      match ofLocal? date time ahead with
      | some instant => return instant
      | none => throw .impossible
    else throw .outOfRange
  | _, _ => throw .outOfRange

end Instant

end CommandSynthesis
