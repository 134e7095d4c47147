import CommandSynthesis.Regex.ClassReader
import CommandSynthesis.Unicode.Recent

set_option autoImplicit false

/-!
# Reading expressions

The reader goes through an expression once, with the groups and alternations that are open on a
stack. The first thing that is out of place ends the reading.
-/

namespace CommandSynthesis.Regex

/-- The parts read since a group or an alternative began, the last one first. -/
structure Sequence where
  start : Nat
  nodes : List Node

namespace Sequence

/-- The parts together, which end before a place. -/
def toNode (sequence : Sequence) (stop : Nat) : Node :=
  match sequence.nodes with
  | [] => .empty
  | [node] => node
  | nodes => .sequence nodes.reverse ⟨sequence.start, stop⟩

def push (sequence : Sequence) (node : Node) : Sequence :=
  { sequence with nodes := node :: sequence.nodes }

end Sequence

/-- What is open around the parts at hand. -/
inductive Frame where
  /-- A group: the parts before it, what it does and its opening, and whether blanks are ignored
  outside. -/
  | group (before : Sequence) (grouping : Grouping) (opening : Span) (ignoreBlanks : Bool)
  /-- The alternatives that are complete, the last one first. -/
  | alternatives (start : Nat) (nodes : List Node)

/-- The name of a group and where it stands. -/
structure GroupName where
  name : List Char
  span : Span

/-- What a reader of an expression has at hand: what is open, the parts since then, and the names of
the groups so far. -/
structure Progress where
  frames : List Frame
  sequence : Sequence
  names : List GroupName

/-- What an opening parenthesis begins. -/
inductive Opening where
  | flags (changes : FlagChanges)
  | group (changes : FlagChanges)
  | capture (name : Option GroupName)

namespace Reader

def isNameChar (first : Bool) (c : Char) : Bool :=
  let letter := c = '_' || Unicode.Recent.alphabetic.contains c.toNat
  if first then letter
  else letter || c = '.' || c = '[' || c = ']' || Unicode.Recent.number.contains c.toNat

/-- Reads the characters of a name up to the closing angle; `fuel` bounds their number. -/
def nameChars (first : Bool) (name : List Char) : Nat → Reader (List Char)
  | 0 => return name.reverse
  | fuel + 1 => do
    match ← peek? with
    | none => return name.reverse
    | some c =>
      if c = '>' then return name.reverse
      else if isNameChar first c then
        bump
        nameChars false (c :: name) fuel
      else failHere .groupNameInvalid

/-- Reads the name of a group after the opening angle. -/
def groupName (names : List GroupName) : Reader GroupName := do
  let start ← offset
  let name ← nameChars true [] ((← get).rest.length + 1)
  let stop ← offset
  if ← atEnd then failBefore .groupNameUnexpectedEnd
  bump
  if name.isEmpty then fail .groupNameEmpty start start
  match names.find? (·.name == name) with
  | some other => throw ⟨.groupNameDuplicate, ⟨start, stop⟩, some other.span⟩
  | none => return ⟨name, ⟨start, stop⟩⟩

def flag? (c : Char) : Option Flag :=
  if c = 'i' then some .ignoreCase
  else if c = 'm' then some .multiLine
  else if c = 's' then some .dotMatchesLineEnd
  else if c = 'U' then some .swapGreed
  else if c = 'u' then some .unicode
  else if c = 'R' then some .crlf
  else if c = 'x' then some .ignoreBlanks
  else none

/-- Reads flags up to a colon or a closing parenthesis. `negation` is the place of the mark of
negation, `seen` holds the flags so far with their places, and `fuel` bounds their number. -/
def flags (negation : Option Nat) (seen : List (Flag × Bool × Nat)) : Nat → Reader FlagChanges
  | 0 => failBefore .flagUnexpectedEnd
  | fuel + 1 => do
    let place ← offset
    match ← peek? with
    | none => failBefore .flagUnexpectedEnd
    | some c =>
      if c = ':' ∨ c = ')' then
        match negation with
        | some mark =>
          if mark + 1 = place then fail .flagDanglingNegation mark (mark + 1)
        | none => pure ()
        return seen.reverse.map fun (flag, enabled, _) => (flag, enabled)
      else if c = '-' then
        match negation with
        | some mark =>
          throw ⟨.flagRepeatedNegation, ⟨place, place + 1⟩, some ⟨mark, mark + 1⟩⟩
        | none => pure ()
        bump
        if ← atEnd then failBefore .flagUnexpectedEnd
        flags (some place) seen fuel
      else
        match flag? c with
        | none => failHere .flagUnrecognized
        | some flag =>
          match seen.find? (·.1 == flag) with
          | some (_, _, mark) =>
            throw ⟨.flagDuplicate, ⟨place, place + 1⟩, some ⟨mark, mark + 1⟩⟩
          | none =>
            bump
            if ← atEnd then failBefore .flagUnexpectedEnd
            flags negation ((flag, negation.isNone, place) :: seen) fuel

/-- Reads what looks ahead or behind; it is not supported. -/
def lookAround : Reader Bool := do
  if ← bumpText ['?', '='] then return true
  else if ← bumpText ['?', '!'] then return true
  else if ← bumpText ['?', '<', '='] then return true
  else bumpText ['?', '<', '!']

/-- Reads an opening parenthesis and what belongs to it. -/
def opening (names : List GroupName) : Reader Opening := do
  let start ← offset
  bump
  skipIgnored
  if ← lookAround then fail .lookAround start (← offset)
  let inner ← offset
  if (← bumpText ['?', 'P', '<']) || (← bumpText ['?', '<']) then
    if ← atEnd then failBefore .groupNameUnexpectedEnd
    return .capture (some (← groupName names))
  else if ← bumpText ['?'] then
    if ← atEnd then fail .groupUnclosed start (start + 1)
    let changes ← flags none [] ((← get).rest.length + 1)
    let last ← peek?
    let empty := (← offset) = inner + 1
    bump
    if last = some ')' then
      if empty then fail .repetitionMissing inner inner
      return .flags changes
    else return .group changes
  else return .capture none

/-- Whether changes of flags make blanks ignored; none when they leave it as it is. -/
def ignoresBlanks? (changes : FlagChanges) : Option Bool :=
  changes.lookup .ignoreBlanks

def setIgnoreBlanks (ignoreBlanks : Bool) : Reader Unit :=
  modify fun cursor => { cursor with ignoreBlanks }

def openGroup (progress : Progress) : Reader Progress := do
  let start ← offset
  let outside := (← get).ignoreBlanks
  let enter (grouping : Grouping) (names : List GroupName) : Reader Progress := do
    let frame := Frame.group progress.sequence grouping ⟨start, start + 1⟩ outside
    return ⟨frame :: progress.frames, ⟨← offset, []⟩, names⟩
  match ← opening progress.names with
  | .flags changes =>
    match ignoresBlanks? changes with
    | some ignoreBlanks => setIgnoreBlanks ignoreBlanks
    | none => pure ()
    return { progress with sequence := progress.sequence.push (.flags changes) }
  | .group changes =>
    setIgnoreBlanks ((ignoresBlanks? changes).getD outside)
    enter (.changes changes) progress.names
  | .capture name => enter .capture (name.toList ++ progress.names)

/-- The alternatives at hand, the last of which ends before a place, and what is open around
them. -/
def closeAlternatives (progress : Progress) (stop : Nat) : Node × List Frame :=
  let last := progress.sequence.toNode stop
  match progress.frames with
  | .alternatives start nodes :: frames =>
    (.alternation (last :: nodes).reverse ⟨start, stop⟩, frames)
  | frames => (last, frames)

def closeGroup (progress : Progress) : Reader Progress := do
  let stop ← offset
  match closeAlternatives progress stop with
  | (inside, .group before grouping opening ignoreBlanks :: frames) =>
    setIgnoreBlanks ignoreBlanks
    bump
    let node := Node.group grouping inside ⟨opening.start, ← offset⟩
    return { progress with frames, sequence := before.push node }
  | _ => failHere .groupUnopened

def nextAlternative (progress : Progress) : Reader Progress := do
  let stop ← offset
  let last := progress.sequence.toNode stop
  let frames := match progress.frames with
    | .alternatives start nodes :: frames => .alternatives start (last :: nodes) :: frames
    | frames => .alternatives progress.sequence.start [last] :: frames
  bump
  return { progress with frames, sequence := ⟨← offset, []⟩ }

/-- The part that a repetition repeats, and the parts before it. -/
def repeated (sequence : Sequence) : Reader (Node × List Node) := do
  match sequence.nodes with
  | [] => failBefore .repetitionMissing
  | .empty :: _ => failBefore .repetitionMissing
  | .flags _ :: _ => failBefore .repetitionMissing
  | node :: nodes => return (node, nodes)

/-- Puts a repetition in the place of the part it repeats. -/
def pushRepetition (progress : Progress) (node : Node) (nodes : List Node) (low : Nat)
    (high : Option Nat) (greedy : Bool) : Reader Progress := do
  let repetition := Node.repetition node low high greedy ⟨node.span.start, ← offset⟩
  return { progress with sequence := { progress.sequence with nodes := repetition :: nodes } }

/-- Reads the mark of a repetition that matches as rarely as it can; without it a repetition is
greedy. -/
def greed : Reader Bool := do
  let greedy := (← peek?) ≠ some '?'
  if ¬ greedy then bump
  return greedy

def simpleRepetition (progress : Progress) (low : Nat) (high : Option Nat) : Reader Progress := do
  let (node, nodes) ← repeated progress.sequence
  bump
  let greedy ← greed
  pushRepetition progress node nodes low high greedy

/-- Reads the digits of a count; what is ignored may stand between them. `fuel` bounds their
number. -/
def countDigits (run : List Char) : Nat → Reader (List Char)
  | 0 => return run.reverse
  | fuel + 1 => do
    match (← peek?).filter Char.isDigit with
    | some c =>
      let _ ← bumpOn
      countDigits (c :: run) fuel
    | none => return run.reverse

def skipBlanks : Reader Unit := do
  advance ((← get).rest.takeWhile Text.isBlank).length

/-- Passes over blanks and over what is ignored after each; `fuel` bounds their number. -/
def skipBlanksOn : Nat → Reader Unit
  | 0 => return ()
  | fuel + 1 => do
    if ((← peek?).filter Text.isBlank).isSome then
      let _ ← bumpOn
      skipBlanksOn fuel

/-- Reads a count. What is wrong with it is told only where the count is needed. -/
def count : Reader (Except Error Nat) := do
  skipBlanks
  let start ← offset
  let fuel := (← get).rest.length + 1
  let run ← countDigits [] fuel
  let span : Span := ⟨start, ← offset⟩
  skipBlanksOn fuel
  let value := Decimal.value run
  if run.isEmpty then return .error ⟨.repetitionCountEmpty, span, none⟩
  else if value < 0x100000000 then return .ok value
  else return .error ⟨.decimalInvalid, span, none⟩

def countedRepetition (progress : Progress) : Reader Progress := do
  let start ← offset
  let (node, nodes) ← repeated progress.sequence
  if ¬ (← bumpOn) then fail .repetitionCountUnclosed start (← offset)
  let first ← count
  if ← atEnd then fail .repetitionCountUnclosed start (← offset)
  let (low, high) ←
    if (← peek?) = some ',' then
      if ¬ (← bumpOn) then fail .repetitionCountUnclosed start (← offset)
      if (← peek?) = some '}' then pure ((← first), none)
      else
        let low ← first
        let high ← (← count)
        pure (low, some high)
    else
      let exact ← first
      pure (exact, some exact)
  if (← peek?) ≠ some '}' then fail .repetitionCountUnclosed start (← offset)
  let greedy ← if ← bumpOn then greed else pure true
  if high.any (· < low) then fail .repetitionCountInvalid start (← offset)
  pushRepetition progress node nodes low high greedy

def single (c : Char) : Reader Node := do
  let start ← offset
  let span : Span := ⟨start, start + 1⟩
  if c = '\\' then escape
  else if c = '[' then return .set (← bracketed)
  else
    bump
    if c = '.' then return .dot span
    else if c = '^' then return .look .lineStart span
    else if c = '$' then return .look .lineEnd span
    else return .literal ⟨c, false, span⟩

def step (progress : Progress) (c : Char) : Reader Progress := do
  if c = '(' then openGroup progress
  else if c = ')' then closeGroup progress
  else if c = '|' then nextAlternative progress
  else if c = '?' then simpleRepetition progress 0 (some 1)
  else if c = '*' then simpleRepetition progress 0 none
  else if c = '+' then simpleRepetition progress 1 none
  else if c = '{' then countedRepetition progress
  else
    let node ← single c
    return { progress with sequence := progress.sequence.push node }

def finish (progress : Progress) : Reader Node := do
  match closeAlternatives progress (← offset) with
  | (node, []) => return node
  | (_, .group _ _ opening _ :: _) => fail .groupUnclosed opening.start opening.stop
  | (_, .alternatives _ _ :: _) => failHere .groupUnopened

/-- Reads the rest of an expression; `fuel` bounds the number of steps. -/
def run (progress : Progress) : Nat → Reader Node
  | 0 => finish progress
  | fuel + 1 => do
    skipIgnored
    match ← peek? with
    | none => finish progress
    | some c => do
      let progress ← step progress c
      run progress fuel

end Reader

def Node.read (pattern : String) : Except Error Node := do
  let chars := pattern.toList
  let (node, _) ← StateT.run (Reader.run ⟨[], ⟨0, []⟩, []⟩ (chars.length + 1)) ⟨0, chars, false⟩
  node.checkNesting 0
  return node

end CommandSynthesis.Regex
