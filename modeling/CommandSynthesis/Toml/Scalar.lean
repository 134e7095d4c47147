import CommandSynthesis.Decimal.Digits
import CommandSynthesis.Text.Hexadecimal
import CommandSynthesis.Time.Date

set_option autoImplicit false

/-!
# TOML values

A document is a table. Reals and moments, which no settings hold, are kept as they are written.

Numbers and moments are read here: integers of 64 bits, reals, and moments. Between the digits of a
number single underscores may stand; a decimal number has no zeros in front. A positive real may not
be beyond all numbers of the binary format with 64 bits, a negative one may.
-/

namespace CommandSynthesis.Toml

inductive Value where
  | string (text : String)
  | integer (value : Int)
  | real (text : String)
  | bool (value : Bool)
  /-- A date, a time of day, or both. -/
  | moment (text : String)
  | array (items : List Value)
  | table (members : List (String × Value))
  deriving Repr, Inhabited

abbrev Members := List (String × Value)

/-! ## Numbers -/

/-- Reads the rest of a run of digits and leaves out its underscores, each of which must stand
before a digit. -/
def moreDigits (isDigit : Char → Bool) : List Char → Option (List Char × List Char)
  | [] => some ([], [])
  | '_' :: c :: rest =>
    if isDigit c then (moreDigits isDigit rest).map fun (run, after) => (c :: run, after)
    else none
  | c :: rest =>
    if isDigit c then (moreDigits isDigit rest).map fun (run, after) => (c :: run, after)
    else if c = '_' then none
    else some ([], c :: rest)

/-- Reads a run of at least one digit. -/
def readDigits (isDigit : Char → Bool) : List Char → Option (List Char × List Char)
  | [] => none
  | c :: rest => if isDigit c then moreDigits isDigit (c :: rest) else none

/-- Reads a sign: whether it is a minus. There need be none. -/
def readSign : List Char → Bool × List Char
  | '-' :: rest => (true, rest)
  | '+' :: rest => (false, rest)
  | rest => (false, rest)

/-- Reads the digits of a decimal integer; a zero stands alone. -/
def readWhole : List Char → Option (List Char × List Char)
  | '0' :: rest => some (['0'], rest)
  | text => readDigits Char.isDigit text

/-- Reads an exponent: none when there is no mark. -/
def readExponent : List Char → Option (Option Int × List Char)
  | [] => some (none, [])
  | c :: rest =>
    if c = 'e' ∨ c = 'E' then do
      let (negative, rest) := readSign rest
      let (run, after) ← readDigits Char.isDigit rest
      let magnitude : Int := Decimal.value run
      return (some (if negative then -magnitude else magnitude), after)
    else some (none, c :: rest)

/-- Reads a fraction after its point: none when there is no point. -/
def readFraction : List Char → Option (Option (List Char) × List Char)
  | '.' :: rest => (readDigits Char.isDigit rest).map fun (run, after) => (some run, after)
  | rest => some (none, rest)

/-- The least number that rounds to one beyond the binary format. -/
def realLimit : Nat := Nat.pow 2 1024 - Nat.pow 2 970

/-- Whether the number with the given digits, of which `whole` and then `exponent` more stand before
the point, is beyond all reals. -/
def isBeyondReals (run : List Char) (whole exponent : Int) : Bool :=
  let kept := run.dropWhile (· = '0')
  let point := whole + exponent - (run.length - kept.length : Nat)
  !kept.isEmpty && (point > 309 || (point = 309 &&
    realLimit * Nat.pow 10 kept.length ≤ Decimal.value kept * Nat.pow 10 309))

/-- What a reader took from a text, given what it left. -/
def taken (text after : List Char) : String :=
  String.ofList (text.take (text.length - after.length))

/-- Reads the word for a real without digits, after its sign. -/
def readSpecial : List Char → Option (List Char)
  | 'i' :: 'n' :: 'f' :: rest => some rest
  | 'n' :: 'a' :: 'n' :: rest => some rest
  | _ => none

/-- Reads a real; it has a fraction or an exponent. -/
def readReal (text : List Char) : Option (Value × List Char) :=
  let (negative, rest) := readSign text
  match readSpecial rest with
  | some after => some (.real (taken text after), after)
  | none => do
    let (whole, rest) ← readWhole rest
    let (fraction, rest) ← readFraction rest
    let (exponent, after) ← readExponent rest
    if fraction.isNone && exponent.isNone then none
    else if !negative &&
        isBeyondReals (whole ++ fraction.getD []) whole.length (exponent.getD 0) then none
    else return (.real (taken text after), after)

def signed64? (value : Int) : Option Value :=
  if -0x8000000000000000 ≤ value ∧ value < 0x8000000000000000 then some (.integer value) else none

/-- Reads the digits of an integer to a base that is a power of two. -/
def readBased (base : Nat) (text : List Char) : Option (Value × List Char) := do
  let isDigit (c : Char) : Bool := (Text.hexValue? c).any (· < base)
  let (run, after) ← readDigits isDigit text
  let value := run.foldl (fun number c => base * number + (Text.hexValue? c).getD 0) 0
  return (← signed64? value, after)

def readInteger : List Char → Option (Value × List Char)
  | '0' :: 'x' :: rest => readBased 16 rest
  | '0' :: 'o' :: rest => readBased 8 rest
  | '0' :: 'b' :: rest => readBased 2 rest
  | text => do
    let (negative, rest) := readSign text
    let (run, after) ← readWhole rest
    let magnitude : Int := Decimal.value run
    return (← signed64? (if negative then -magnitude else magnitude), after)

/-- Reads a number of exactly `count` digits between two bounds. -/
def readField (count low high : Nat) (text : List Char) : Option (Nat × List Char) :=
  let run := text.take count
  let value := Decimal.value run
  if run.length = count ∧ run.all Char.isDigit ∧ low ≤ value ∧ value ≤ high then
    some (value, text.drop count)
  else none

def readMark (mark : Char) : List Char → Option (List Char)
  | [] => none
  | c :: rest => if c = mark then some rest else none

/-- Reads a fraction of a second, if there is one. -/
def readSecondFraction : List Char → Option (List Char)
  | '.' :: rest =>
    match Decimal.spanDigits rest with
    | ([], _) => none
    | (_, after) => some after
  | rest => some rest

def readTime (text : List Char) : Option (List Char) := do
  let (_, rest) ← readField 2 0 23 text
  let rest ← readMark ':' rest
  let (_, rest) ← readField 2 0 59 rest
  let rest ← readMark ':' rest
  let (_, rest) ← readField 2 0 60 rest
  readSecondFraction rest

def readDate (text : List Char) : Option (List Char) := do
  let (year, rest) ← readField 4 0 9999 text
  let rest ← readMark '-' rest
  let (month, rest) ← readField 2 1 12 rest
  let rest ← readMark '-' rest
  let (_, rest) ← readField 2 1 (Date.daysInMonth year month) rest
  return rest

/-- Reads the distance to universal time, if it is given. -/
def readZone : List Char → Option (List Char)
  | [] => some []
  | c :: rest =>
    if c = 'Z' ∨ c = 'z' then some rest
    else if c = '+' ∨ c = '-' then do
      let (_, rest) ← readField 2 0 23 rest
      let rest ← readMark ':' rest
      let (_, rest) ← readField 2 0 59 rest
      return rest
    else some (c :: rest)

/-- Reads what may follow a date: a time of day and the distance to universal time. A blank after
which no time of day stands is no part of the moment. -/
def readClock : List Char → Option (List Char)
  | [] => some []
  | c :: rest =>
    if c = 'T' ∨ c = 't' then (readTime rest).bind readZone
    else if c = ' ' then
      match readTime rest with
      | some after => readZone after
      | none => some (c :: rest)
    else some (c :: rest)

def readMoment (text : List Char) : Option (Value × List Char) := do
  let after ← ((readDate text).bind readClock).or (readTime text)
  return (.moment (taken text after), after)

def readScalar (text : List Char) : Option (Value × List Char) :=
  ((readMoment text).or (readReal text)).or (readInteger text)

end CommandSynthesis.Toml
