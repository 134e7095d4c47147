import CommandSynthesis.Regex.Cursor
import CommandSynthesis.Text.Hexadecimal

set_option autoImplicit false

/-!
# Escapes in expressions

What a backslash and the characters after it stand for: a character, a property or another set of
characters, or a condition on a place.
-/

namespace CommandSynthesis.Regex

namespace Reader

def isMeta (c : Char) : Bool :=
  "\\.+*?()|[]\x7b\x7d^$#&-~".toList.contains c

/-- Characters that stand for themselves after a backslash. -/
def isEscapable (c : Char) : Bool :=
  isMeta c || (c.toNat < 0x80 && !c.isAlphanum && c ≠ '<' && c ≠ '>')

/-- The character that stands for a control character after a backslash. -/
def controlEscape? (c : Char) : Option Char :=
  if c = 'a' then some '\x07'
  else if c = 'f' then some '\x0c'
  else if c = 't' then some '\t'
  else if c = 'n' then some '\n'
  else if c = 'r' then some '\r'
  else if c = 'v' then some '\x0b'
  else none

/-- Reads hexadecimal digits, `count` of them, the first without moving on to it. -/
def hexDigits (value : Nat) (first : Bool) : Nat → Reader Nat
  | 0 => return value
  | count + 1 => do
    if ¬ first then
      if ¬ (← bumpOn) then failBefore .escapeUnexpectedEnd
    match (← peek?).bind Text.hexValue? with
    | some digit => hexDigits (16 * value + digit) false count
    | none => failHere .escapeHexInvalidDigit

/-- Reads a character given by a fixed number of hexadecimal digits. -/
def hexFixed (start count : Nat) : Reader Literal := do
  let first ← offset
  let value ← hexDigits 0 true count
  let _ ← bumpOn
  let last ← offset
  match Text.charOf? value with
  | some char => return ⟨char, count = 2, ⟨start, last⟩⟩
  | none => fail .escapeHexInvalid first last

/-- Reads hexadecimal digits up to the closing brace; `fuel` bounds their number. The result is the
value and the number of digits. -/
def hexUntilBrace (brace value digits : Nat) : Nat → Reader (Nat × Nat)
  | 0 => do fail .escapeUnexpectedEnd brace (← offset)
  | fuel + 1 => do
    let _ ← bumpOn
    match ← peek? with
    | none => fail .escapeUnexpectedEnd brace (← offset)
    | some c =>
      if c = '}' then return (value, digits)
      else
        match Text.hexValue? c with
        | some digit => hexUntilBrace brace (16 * value + digit) (digits + 1) fuel
        | none => failHere .escapeHexInvalidDigit

/-- Reads a character given by hexadecimal digits between braces. -/
def hexBraced (start : Nat) : Reader Literal := do
  let brace ← offset
  let (value, digits) ← hexUntilBrace brace 0 0 ((← get).rest.length + 1)
  let last ← offset
  let _ ← bumpOn
  if digits = 0 then fail .escapeHexEmpty brace (← offset)
  match Text.charOf? value with
  | some char => return ⟨char, false, ⟨start, ← offset⟩⟩
  | none => fail .escapeHexInvalid (brace + 1) last

/-- Reads a character given by its code point, after the letter that says with how many digits. -/
def hexLiteral (start : Nat) (letter : Char) : Reader Literal := do
  if ¬ (← bumpOn) then failBefore .escapeUnexpectedEnd
  if (← peek?) = some '{' then hexBraced start
  else hexFixed start (if letter = 'x' then 2 else if letter = 'u' then 4 else 8)

/-- Reads the name of a property up to the closing brace; `fuel` bounds its length. -/
def nameUntilBrace (name : List Char) : Nat → Reader (List Char)
  | 0 => failBefore .escapeUnexpectedEnd
  | fuel + 1 => do
    let _ ← bumpOn
    match ← peek? with
    | none => failBefore .escapeUnexpectedEnd
    | some c => if c = '}' then return name.reverse else nameUntilBrace (c :: name) fuel

/-- Splits a text around the first occurrence of another. -/
def splitAround? (mark : List Char) : List Char → Option (List Char × List Char)
  | [] => none
  | c :: rest =>
    if mark.isPrefixOf (c :: rest) then some ([], (c :: rest).drop mark.length)
    else (splitAround? mark rest).map fun (before, after) => (c :: before, after)

/-- The property written in a name, and whether the name negates it. -/
def propertyOf (name : List Char) : Property × Bool :=
  let valued (sides : List Char × List Char) : Property :=
    .valued (String.ofList sides.1) (String.ofList sides.2)
  match splitAround? ['!', '='] name with
  | some sides => (valued sides, true)
  | none =>
    match splitAround? [':'] name with
    | some sides => (valued sides, false)
    | none =>
      match splitAround? ['='] name with
      | some sides => (valued sides, false)
      | none => (.named (String.ofList name), false)

def propertyNode (start : Nat) (letter : Char) : Reader Node := do
  let negated := letter = 'P'
  if ¬ (← bumpOn) then failBefore .escapeUnexpectedEnd
  match ← peek? with
  | some '{' =>
    let name ← nameUntilBrace [] ((← get).rest.length + 1)
    bump
    let (property, flipped) := propertyOf name
    return .property property (negated != flipped) ⟨start, ← offset⟩
  | some c =>
    if c = '\\' then failHere .propertyInvalid
    let _ ← bumpOn
    return .property (.named (String.singleton c)) negated ⟨start, ← offset⟩
  | none => failBefore .escapeUnexpectedEnd

/-- The set that a letter after a backslash stands for, and whether it is negated. -/
def shorthand? (c : Char) : Option (Shorthand × Bool) :=
  if c = 'd' then some (.digit, false)
  else if c = 'D' then some (.digit, true)
  else if c = 's' then some (.space, false)
  else if c = 'S' then some (.space, true)
  else if c = 'w' then some (.word, false)
  else if c = 'W' then some (.word, true)
  else none

/-- Characters of the name of a special word boundary. -/
def isBoundaryChar (c : Char) : Bool :=
  c.isAlpha || c = '-'

/-- Reads the name of a special word boundary; `fuel` bounds its length. -/
def boundaryName (name : List Char) : Nat → Reader (List Char)
  | 0 => return name.reverse
  | fuel + 1 => do
    match (← peek?).filter isBoundaryChar with
    | some c =>
      let _ ← bumpOn
      boundaryName (c :: name) fuel
    | none => return name.reverse

/-- Reads the braces after `\b`, unless they hold a count. -/
def specialBoundary (start : Nat) : Reader Look := do
  let cursor ← get
  let brace := cursor.offset
  if ¬ (← bumpOn) then fail .wordBoundaryUnexpectedEnd start (← offset)
  let first ← offset
  if ((← peek?).filter isBoundaryChar).isNone then
    set cursor
    return .wordBoundary
  let name ← boundaryName [] (cursor.rest.length + 1)
  let last ← offset
  if (← peek?) ≠ some '}' then fail .wordBoundaryUnclosed brace last
  bump
  if name = "start".toList then return .wordStart
  else if name = "end".toList then return .wordEnd
  else if name = "start-half".toList then return .wordStartHalf
  else if name = "end-half".toList then return .wordEndHalf
  else fail .wordBoundaryUnrecognized first last

/-- The condition that a letter after a backslash stands for. -/
def look? (c : Char) : Option Look :=
  if c = 'A' then some .textStart
  else if c = 'z' then some .textEnd
  else if c = 'B' then some .noWordBoundary
  else if c = '<' then some .wordStart
  else if c = '>' then some .wordEnd
  else none

/-- Reads what a character after a backslash stands for, if it stands alone. -/
def plainEscape (start : Nat) (c : Char) : Reader Node := do
  bump
  let span : Span := ⟨start, ← offset⟩
  if isEscapable c then return .literal ⟨c, false, span⟩
  else if c = 'b' then
    if (← peek?) = some '{' then
      let look ← specialBoundary start
      return .look look ⟨start, ← offset⟩
    else return .look .wordBoundary span
  else
    match controlEscape? c, look? c with
    | some char, _ => return .literal ⟨char, false, span⟩
    | none, some look => return .look look span
    | none, none => fail .escapeUnrecognized span.start span.stop

def escape : Reader Node := do
  let start ← offset
  bump
  match ← peek? with
  | none => fail .escapeUnexpectedEnd start (← offset)
  | some c =>
    if c.isDigit then fail .backreference start ((← offset) + 1)
    else if c = 'x' ∨ c = 'u' ∨ c = 'U' then return .literal (← hexLiteral start c)
    else if c = 'p' ∨ c = 'P' then propertyNode start c
    else
      match shorthand? c with
      | some (kind, negated) =>
        bump
        return .shorthand kind negated ⟨start, ← offset⟩
      | none => plainEscape start c

end Reader

end CommandSynthesis.Regex
