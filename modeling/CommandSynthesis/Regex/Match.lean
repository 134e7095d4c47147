import CommandSynthesis.Regex.Pattern

set_option autoImplicit false

/-!
# Matching

Whether a pattern matches somewhere in a text. A set of places in the text is a number whose bits
are the places, and a pattern takes a set of places to the places it can reach from them; so a text
is never read twice for the same place.
-/

namespace CommandSynthesis.Regex

/-- What a step does with a set of places: it keeps those in `places`, and goes on to the next
place if it is a step over a character. -/
structure Move where
  places : Nat
  advances : Bool
  deriving Repr

namespace Condition

/-- Whether a condition holds at the place before `after`, where `before` is the text before it in
reverse. -/
def holds (condition : Condition) (before after : List Char) : Bool :=
  let isWord (words : Words) (text : List Char) : Bool :=
    (text.head?.map fun c => words.ranges.contains c.toNat).getD false
  match condition with
  | textStart => before.isEmpty
  | textEnd => after.isEmpty
  | lineStart => before.isEmpty || before.head? == some '\n'
  | lineEnd => after.isEmpty || after.head? == some '\n'
  | crlfStart =>
    before.isEmpty || before.head? == some '\n' ||
      (before.head? == some '\r' && after.head? != some '\n')
  | crlfEnd =>
    after.isEmpty || after.head? == some '\r' ||
      (after.head? == some '\n' && before.head? != some '\r')
  | boundary words => isWord words before != isWord words after
  | noBoundary words => isWord words before == isWord words after
  | wordStart words => !isWord words before && isWord words after
  | wordEnd words => isWord words before && !isWord words after
  | wordStartHalf words => !isWord words before
  | wordEndHalf words => !isWord words after

/-- The places where a condition holds, from a place on. -/
def places (condition : Condition) (place : Nat) (before : List Char) : List Char → Nat
  | [] => if condition.holds before [] then 1 <<< place else 0
  | c :: after =>
    (if condition.holds before (c :: after) then 1 <<< place else 0)
      + condition.places (place + 1) (c :: before) after

end Condition

namespace CharSet

/-- The places before a character of a set, from a place on. -/
def places (set : CharSet) (place : Nat) : List Char → Nat
  | [] => 0
  | c :: after =>
    (if set.contains c.toNat then 1 <<< place else 0) + set.places (place + 1) after

end CharSet

def Step.move (text : List Char) : Step → Move
  | .char set => ⟨set.places 0 text, true⟩
  | .condition wanted => ⟨wanted.places 0 [] text, false⟩

namespace Pattern

def map {α β : Type} (f : α → β) : Pattern α → Pattern β
  | empty => empty
  | step a => step (f a)
  | sequence first second => sequence (first.map f) (second.map f)
  | choice left right => choice (left.map f) (right.map f)
  | repetition inside low high greedy => repetition (inside.map f) low high greedy
  | group noted inside => group noted (inside.map f)

/-- Repeats a move a number of times; it stops when nothing changes any more. -/
def iterate (move : Nat → Nat) (places : Nat) : Nat → Nat
  | 0 => places
  | count + 1 =>
    let next := move places
    if next = places then places else iterate move next count

/-- Adds what can be reached by repeating a move up to a number of times; `fresh` holds the places
from which it has not been tried. -/
def grow (move : Nat → Nat) (places fresh : Nat) : Nat → Nat
  | 0 => places
  | count + 1 =>
    let next := move fresh
    let new := next ^^^ (next &&& places)
    if new = 0 then places else grow move (places ||| new) new count

/-- The places that a pattern reaches from a set of places; `count` is the number of places in the
text. -/
def reach (count : Nat) : Pattern Move → Nat → Nat
  | empty, places => places
  | step move, places =>
    let kept := places &&& move.places
    if move.advances then kept <<< 1 else kept
  | sequence first second, places => second.reach count (first.reach count places)
  | choice left right, places => left.reach count places ||| right.reach count places
  | repetition inside low high _, places =>
    let start := iterate (inside.reach count) places low
    let more := match high with
      | some high => min (high - low) count
      | none => count
    grow (inside.reach count) start start more
  | group _ inside, places => inside.reach count places

/-- Whether a pattern matches somewhere in a text. -/
def isMatch (pattern : Pattern Step) (text : List Char) : Bool :=
  let count := text.length + 1
  (pattern.map (·.move text)).reach count (1 <<< count - 1) != 0

end Pattern

end CommandSynthesis.Regex
