import CommandSynthesis.Decimal.Digits
import CommandSynthesis.Json.Outline
import CommandSynthesis.Text.Hexadecimal

set_option autoImplicit false

/-!
# Reading JSON

From a text to its outline. Every reader returns what it read and the text after it, or no text
when a fault was met, since nothing is read behind a fault.
-/

namespace CommandSynthesis

namespace Json

def isSpace (c : Char) : Bool :=
  c == ' ' || c == '\n' || c == '\t' || c == '\r'

/-- A text without the blanks at its front. -/
def skipSpace (text : List Char) : List Char :=
  text.dropWhile isSpace

/-- The number that four hexadecimal digits stand for. -/
def hexValue? (a b c d : Char) : Option Nat :=
  Text.hexNumber? [a, b, c, d]

def isHighSurrogate (code : Nat) : Bool :=
  0xD800 ≤ code && code ≤ 0xDBFF

def isLowSurrogate (code : Nat) : Bool :=
  0xDC00 ≤ code && code ≤ 0xDFFF

def joinSurrogates (high low : Nat) : Char :=
  Char.ofNat (0x10000 + (high - 0xD800) * 0x400 + (low - 0xDC00))

/-- The character that a short escape stands for. -/
def shortEscape? (c : Char) : Option Char :=
  if c = '"' then some '"'
  else if c = '\\' then some '\\'
  else if c = '/' then some '/'
  else if c = 'b' then some '\x08'
  else if c = 'f' then some '\x0c'
  else if c = 'n' then some '\n'
  else if c = 'r' then some '\r'
  else if c = 't' then some '\t'
  else none

/-- The fault of an escape that lacks some of its four digits: the text may have fewer than four
bytes left. -/
def shortOfDigits (rest : List Char) : Fault :=
  if (String.ofList (rest.take 4)).utf8ByteSize < 4 then .truncated else .malformed

/-- The low surrogate that an escape at the front of a text stands for. -/
def lowSurrogate? : List Char → Option Nat
  | '\\' :: 'u' :: a :: b :: c :: d :: _ => (hexValue? a b c d).filter isLowSurrogate
  | _ => none

/-- The fault, for a reader that uses the string, of a high surrogate with no low one after it. -/
def unpairedFault : List Char → Fault
  | [] => .truncated
  | ['\\'] => .truncated
  | '\\' :: 'u' :: rest => if rest.length < 4 then shortOfDigits rest else .malformed
  | _ => .malformed

/-- How far a string has been read: the characters so far in reverse, or the fault that stops a
reader who uses the string. -/
abbrev Partial := Except Fault (List Char)

/-- Adds a character to what has been read of a string. -/
def Partial.push (done : Partial) (c : Char) : Partial :=
  done.map (c :: ·)

/-- Ends the reading of a string with a fault. -/
def Partial.stop (done : Partial) (fault : Fault) : Outline :=
  match done with
  | .ok _ => .broken (.always fault)
  | .error used => .broken ⟨used, fault, used⟩

/-- Reads the rest of a string after its opening quote. -/
def readString (done : Partial) : List Char → Outline × Option (List Char)
  | [] => (done.stop .truncated, none)
  | '"' :: rest =>
    (.string (done.toOption.map fun chars => String.ofList chars.reverse), some rest)
  | '\\' :: 'u' :: a :: b :: c :: d :: rest =>
    match hexValue? a b c d with
    | none => (done.stop (shortOfDigits [a, b, c, d]), none)
    | some code =>
      if isHighSurrogate code then
        match lowSurrogate? rest with
        | some low => readString (done.push (joinSurrogates code low)) (rest.drop 6)
        | none => readString (done.bind fun _ => .error (unpairedFault rest)) rest
      else if isLowSurrogate code then readString (done.bind fun _ => .error .malformed) rest
      else readString (done.push (Char.ofNat code)) rest
  | '\\' :: 'u' :: rest => (done.stop (shortOfDigits rest), none)
  | '\\' :: c :: rest =>
    match shortEscape? c with
    | some char => readString (done.push char) rest
    | none => (done.stop .malformed, none)
  | ['\\'] => (done.stop .truncated, none)
  | c :: rest =>
    if c.toNat < 0x20 then (done.stop .malformed, none)
    else readString (done.push c) rest
termination_by text => text.length
decreasing_by
  all_goals simp only [List.length_cons, List.length_drop]
  all_goals omega

/-- The largest significand that is kept. -/
def maxSignificand : Nat := 0xFFFFFFFFFFFFFFFF

/-- Takes the digits before the point into a significand; those that no longer fit are counted. -/
def keepInteger (significand : Nat) : List Char → Nat × Nat
  | [] => (significand, 0)
  | c :: rest =>
    let next := 10 * significand + Decimal.digitValue c
    if next ≤ maxSignificand then keepInteger next rest else (significand, rest.length + 1)

/-- Takes the digits after the point into a significand while they fit, and counts them. -/
def keepFraction (significand : Nat) : List Char → Nat × Nat
  | [] => (significand, 0)
  | c :: rest =>
    let next := 10 * significand + Decimal.digitValue c
    if next ≤ maxSignificand then
      let (kept, count) := keepFraction next rest
      (kept, count + 1)
    else (significand, 0)

/-- The number written with the given digits before and after the point and the given exponent. An
integer that does not fit, and a negative zero, are reals. -/
def numberOf? (negative : Bool) (whole fraction : List Char) (exponent : Option Int) :
    Option Number :=
  let (significand, dropped) := keepInteger 0 whole
  let (significand, places) := keepFraction significand fraction
  let real (power : Int) : Option Number :=
    (Binary64.ofDecimal? negative significand power).map .real
  if fraction.isEmpty ∧ exponent.isNone ∧ dropped = 0 then
    if negative then
      if significand = 0 ∨ 0x8000000000000000 < significand then real 0
      else some (.integer (-significand))
    else some (.integer significand)
  else real (dropped - places + exponent.getD 0)

/-- The fault of a number that lacks a digit before the given text. -/
def missingDigit (rest : List Char) : Stop :=
  if rest.isEmpty then ⟨.truncated, .malformed, .malformed⟩ else .always .malformed

/-- Reads an exponent after its mark; none when there is no mark. -/
def readExponent : List Char → Except Stop (Option Int × List Char)
  | c :: rest =>
    if c = 'e' ∨ c = 'E' then
      let (negative, rest) :=
        match rest with
        | '-' :: rest => (true, rest)
        | '+' :: rest => (false, rest)
        | rest => (false, rest)
      match Decimal.spanDigits rest with
      | ([], after) => .error (missingDigit after)
      | (run, after) =>
        let magnitude : Int := Decimal.value run
        .ok (some (if negative then -magnitude else magnitude), after)
    else .ok (none, c :: rest)
  | [] => .ok (none, [])

/-- Reads a fraction after its point; empty when there is no point. -/
def readFraction : List Char → Except Stop (List Char × List Char)
  | '.' :: rest =>
    match Decimal.spanDigits rest with
    | ([], after) => .error (missingDigit after)
    | (run, after) => .ok (run, after)
  | rest => .ok ([], rest)

/-- Reads the digits before the point; a zero stands alone. -/
def readWhole (text : List Char) : Except Stop (List Char × List Char) :=
  match Decimal.spanDigits text with
  | ([], after) => .error (missingDigit after)
  | ('0' :: _ :: _, _) => .error (.always .malformed)
  | (run, after) => .ok (run, after)

def readNumber (negative : Bool) (text : List Char) : Outline × Option (List Char) :=
  let read : Except Stop (Option Number × List Char) := do
    let (whole, text) ← readWhole text
    let (fraction, text) ← readFraction text
    let (exponent, text) ← readExponent text
    return (numberOf? negative whole fraction exponent, text)
  match read with
  | .ok (value, after) => (.number value, some after)
  | .error stop => (.broken stop, none)

/-- Reads the rest of a word of fixed spelling. -/
def readWord (value : Outline) : List Char → List Char → Outline × Option (List Char)
  | [], text => (value, some text)
  | _ :: _, [] => (.broken ⟨.truncated, .truncated, .malformed⟩, none)
  | expected :: word, c :: text =>
    if c = expected then readWord value word text else (.broken (.always .malformed), none)

mutual

/-- Reads a value; `fuel` bounds the nesting and the number of items. -/
def readValue : Nat → List Char → Outline × Option (List Char)
  | 0, _ => (.broken (.always .truncated), none)
  | fuel + 1, text =>
    match skipSpace text with
    | [] => (.broken (.always .truncated), none)
    | '"' :: rest => readString (.ok []) rest
    | '[' :: rest =>
      match skipSpace rest with
      | [] => (.array [] (some .truncated), none)
      | ']' :: after => (.array [] none, some after)
      | rest =>
        let (items, stop, after) := readItems fuel rest
        (.array items stop, after)
    | '{' :: rest =>
      match skipSpace rest with
      | [] => (.object [] (some .truncated), none)
      | '}' :: after => (.object [] none, some after)
      | rest =>
        let (members, stop, after) := readMembers fuel rest
        (.object members stop, after)
    | '-' :: rest => readNumber true rest
    | c :: rest =>
      if c.isDigit then readNumber false (c :: rest)
      else if c = 'n' then readWord .null ['u', 'l', 'l'] rest
      else if c = 't' then readWord (.bool true) ['r', 'u', 'e'] rest
      else if c = 'f' then readWord (.bool false) ['a', 'l', 's', 'e'] rest
      else (.broken (.always .malformed), none)

def readItems : Nat → List Char → List Outline × Option Fault × Option (List Char)
  | 0, _ => ([], some .truncated, none)
  | fuel + 1, text =>
    match readValue fuel text with
    | (item, none) => ([item], none, none)
    | (item, some after) =>
      match skipSpace after with
      | [] => ([item], some .truncated, none)
      | ']' :: after => ([item], none, some after)
      | ',' :: rest =>
        let (items, stop, after) := readItems fuel rest
        (item :: items, stop, after)
      | _ => ([item], some .malformed, none)

def readMembers :
    Nat → List Char → List (Outline × Outline) × Option Fault × Option (List Char)
  | 0, _ => ([], some .truncated, none)
  | fuel + 1, text =>
    let (key, after) :=
      match skipSpace text with
      | [] => (.broken (.always .truncated), none)
      | '"' :: rest => readString (.ok []) rest
      | rest =>
        match readValue fuel rest with
        | (.broken _, _) => (.broken (.always .malformed), none)
        | (key, _) => (key, none)
    match after with
    | none => ([(key, .broken (.always .malformed))], none, none)
    | some after =>
      match skipSpace after with
      | [] => ([(key, .broken (.always .truncated))], none, none)
      | ':' :: rest =>
        match readValue fuel rest with
        | (value, none) => ([(key, value)], none, none)
        | (value, some after) =>
          match skipSpace after with
          | [] => ([(key, value)], some .truncated, none)
          | '}' :: after => ([(key, value)], none, some after)
          | ',' :: rest =>
            let (members, stop, after) := readMembers fuel rest
            ((key, value) :: members, stop, after)
          | _ => ([(key, value)], some .malformed, none)
      | _ => ([(key, .broken (.always .malformed))], none, none)

end

end Json

def Document.read (text : String) : Document :=
  let chars := text.toList
  match Json.readValue (2 * chars.length + 2) chars with
  | (root, none) => ⟨root, none⟩
  | (root, some after) => ⟨root, if (Json.skipSpace after).isEmpty then none else some .malformed⟩

/-- The number of brackets that may stand inside one another in a text that is used. -/
def Json.maxDepth : Nat := 127

def Json.parse (text : String) : Except Fault Json := do
  let document := Document.read text
  document.root.verify maxDepth
  Outline.stopped document.rest
  return document.root.toJson

end CommandSynthesis
