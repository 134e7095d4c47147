import CommandSynthesis.Regex.Tree
import CommandSynthesis.Text.Blank

set_option autoImplicit false

/-!
# Reading an expression character by character

The place a reader of an expression has come to, and the steps it takes. When blanks are ignored, so
are comments, which reach from `#` to the end of the line.
-/

namespace CommandSynthesis.Regex

/-- Where a reader stands: the number of characters before it, those after it, and whether blanks
are ignored. -/
structure Cursor where
  offset : Nat
  rest : List Char
  ignoreBlanks : Bool
  deriving Repr

abbrev Reader := StateT Cursor (Except Error)

namespace Reader

variable {α : Type}

/-- Gives up: the characters from `start` to `stop` are at fault. -/
def fail (cause : Cause) (start stop : Nat) : Reader α :=
  throw ⟨cause, ⟨start, stop⟩, none⟩

/-- The number of characters read. -/
def offset : Reader Nat :=
  return (← get).offset

def peek? : Reader (Option Char) :=
  return (← get).rest.head?

def atEnd : Reader Bool :=
  return (← get).rest.isEmpty

/-- Passes over a number of characters. -/
def advance (count : Nat) : Reader Unit :=
  modify fun cursor =>
    { cursor with offset := cursor.offset + count, rest := cursor.rest.drop count }

/-- Passes over the next character, if there is one. -/
def bump : Reader Unit := do
  if ¬ (← atEnd) then advance 1

/-- Passes over a text if it comes next. -/
def bumpText (text : List Char) : Reader Bool := do
  if text.isPrefixOf (← get).rest then
    advance text.length
    return true
  else return false

/-- The number of blanks and characters of comments at the front of a text. -/
def countIgnored (comment : Bool) : List Char → Nat
  | [] => 0
  | c :: rest =>
    if comment then countIgnored (c ≠ '\n') rest + 1
    else if Text.isBlank c then countIgnored false rest + 1
    else if c = '#' then countIgnored true rest + 1
    else 0

def skipIgnored : Reader Unit := do
  let cursor ← get
  if cursor.ignoreBlanks then advance (countIgnored false cursor.rest)

/-- Passes over the next character and over what is ignored after it, and tells whether anything is
left. -/
def bumpOn : Reader Bool := do
  bump
  skipIgnored
  return ¬ (← atEnd)

def peekSecond? : Reader (Option Char) :=
  return ((← get).rest.drop 1).head?

/-- A text without the blanks and the one mark of a comment at its front. -/
def skipMark (marked : Bool) : List Char → List Char
  | [] => []
  | c :: rest =>
    if Text.isBlank c then skipMark marked rest
    else if c = '#' ∧ ¬ marked then skipMark true rest
    else c :: rest

/-- The character after the next one, what is ignored being passed over. -/
def peekSecondOn? : Reader (Option Char) := do
  let cursor ← get
  let after := cursor.rest.drop 1
  if cursor.ignoreBlanks then
    let kept := skipMark false after
    return if kept.isEmpty then after.head? else kept.head?
  else return after.head?

def failHere (cause : Cause) : Reader α := do
  let start ← offset
  fail cause start (start + 1)

/-- Gives up at the place before the next character. -/
def failBefore (cause : Cause) : Reader α := do
  let start ← offset
  fail cause start start

end Reader

end CommandSynthesis.Regex
