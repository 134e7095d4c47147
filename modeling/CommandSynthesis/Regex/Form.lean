import CommandSynthesis.Regex.Pattern

set_option autoImplicit false

/-!
# Normal forms of patterns

Patterns as they are built into machines. Characters in a row are one literal, choices between
characters or sets are one set, what alternatives begin with in common stands before the choice, and
repetitions that say nothing are gone.
-/

namespace CommandSynthesis.Regex

open Unicode

inductive Form where
  | empty
  | literal (text : List Char)
  /-- One character of a set; no character if the set is empty. -/
  | set (ranges : CodeRanges)
  | condition (condition : Condition)
  | repetition (inside : Form) (low : Nat) (high : Option Nat) (greedy : Bool)
  | capture (inside : Form)
  | sequence (items : List Form)
  | choice (items : List Form)
  deriving Repr, Inhabited

namespace Form

mutual

/-- Whether two forms are the same. What notes its matches is never the same as another form. -/
def same : Form → Form → Bool
  | empty, empty => true
  | literal text, literal other => text = other
  | set ranges, set other => ranges = other
  | condition one, condition other => one = other
  | repetition inside low high greedy, repetition other low' high' greedy' =>
    low = low' && high = high' && greedy = greedy' && same inside other
  | sequence items, sequence others => sameItems items others
  | choice items, choice others => sameItems items others
  | _, _ => false

/-- Whether two lists of forms are the same. -/
def sameItems : List Form → List Form → Bool
  | [], [] => true
  | item :: rest, other :: others => same item other && sameItems rest others
  | _, _ => false

end

mutual

/-- The least number of characters that a form matches; none if part of it matches nothing. -/
def leastLength? : Form → Option Nat
  | empty => some 0
  | literal text => some text.length
  | set ranges => if ranges.isEmpty then none else some 1
  | condition _ => some 0
  | repetition inside low _ _ => inside.leastLength?.map (low * ·)
  | capture inside => inside.leastLength?
  | sequence items => (leastLengths? items).map fun lengths => lengths.foldl (· + ·) 0
  | choice items => (leastLengths? items).bind fun lengths => lengths.min?

/-- The least numbers of characters that forms match, unless part of one matches nothing. -/
def leastLengths? : List Form → Option (List Nat)
  | [] => some []
  | item :: rest => do
    let length ← item.leastLength?
    let lengths ← leastLengths? rest
    return length :: lengths

end

mutual

/-- Whether a form can match nothing but the empty text. -/
def isEmptyOnly : Form → Bool
  | empty => true
  | literal _ => false
  | set _ => false
  | condition _ => true
  | repetition inside _ _ _ => inside.isEmptyOnly
  | capture inside => inside.isEmptyOnly
  | sequence items => areEmptyOnly items
  | choice items => areEmptyOnly items

/-- Whether no form of a list can match more than the empty text. -/
def areEmptyOnly : List Form → Bool
  | [] => true
  | item :: rest => item.isEmptyOnly && areEmptyOnly rest

end

mutual

/-- Whether a form matches only where a condition holds, to be tested before the first character or,
backward, after the last one. -/
def requires (wanted : Condition) (backward : Bool) : Form → Bool
  | condition given => given = wanted
  | repetition inside low _ _ => 0 < low && inside.requires wanted backward
  | capture inside => inside.requires wanted backward
  | sequence items => sequenceRequires wanted backward items
  | choice items => choiceRequires wanted backward items
  | _ => false

/-- Whether a sequence matches only where a condition holds: one of the items that it begins with,
up to the first that can match a character, says so. -/
def sequenceRequires (wanted : Condition) (backward : Bool) : List Form → Bool
  | [] => false
  | item :: rest =>
    if backward then
      sequenceRequires wanted backward rest
        || (areEmptyOnly rest && item.requires wanted backward)
    else
      item.requires wanted backward
        || (item.isEmptyOnly && sequenceRequires wanted backward rest)

/-- Whether all alternatives match only where a condition holds. -/
def choiceRequires (wanted : Condition) (backward : Bool) : List Form → Bool
  | [] => true
  | item :: rest => item.requires wanted backward && choiceRequires wanted backward rest

end

mutual

/-- Whether a form has a condition on words that may hold characters beyond ASCII. -/
def looksBeyondAscii : Form → Bool
  | condition wanted => wanted.words? = some .unicode
  | repetition inside _ _ _ => inside.looksBeyondAscii
  | capture inside => inside.looksBeyondAscii
  | sequence items => anyLooksBeyondAscii items
  | choice items => anyLooksBeyondAscii items
  | _ => false

/-- Whether one of a list of forms has a condition on words that may hold characters beyond
ASCII. -/
def anyLooksBeyondAscii : List Form → Bool
  | [] => false
  | item :: rest => item.looksBeyondAscii || anyLooksBeyondAscii rest

end

/-- The form of a set: a set of one character is a literal. -/
def ofRanges (ranges : CodeRanges) : Form :=
  match ranges.difference [(0xD800, 0xDFFF)] with
  | [(first, last)] =>
    if first = last then literal [Char.ofNat first] else set [(first, last)]
  | ranges => set ranges

def items : Form → List Form
  | empty => []
  | sequence items => items
  | form => [form]

/-- Puts an item in front of items; literals that meet become one. -/
def push : Form → List Form → List Form
  | empty, rest => rest
  | literal text, literal other :: rest => literal (text ++ other) :: rest
  | item, rest => item :: rest

def ofItems : List Form → Form
  | [] => empty
  | [item] => item
  | items => sequence items

def append (first second : Form) : Form :=
  ofItems (first.items.foldr push second.items)

/-- A form a number of times in a row. What matches only the empty text need not do so twice. -/
def repeated (inside : Form) (low : Nat) (high : Option Nat) (greedy : Bool) : Form :=
  let low' := if inside.isEmptyOnly then min low 1 else low
  let high' := if inside.isEmptyOnly then some (min (high.getD 1) 1) else high
  if low' = 0 ∧ high' = some 0 then empty
  else if low' = 1 ∧ high' = some 1 then inside
  else repetition inside low' high' greedy

/-- The character of a literal of one character. -/
def char? : Form → Option Char
  | literal [c] => some c
  | _ => none

def ranges? : Form → Option CodeRanges
  | set ranges => some ranges
  | _ => none

/-- The items that two lists begin with in common. -/
def sharedItems : List Form → List Form → List Form
  | item :: rest, other :: others => if same item other then item :: sharedItems rest others else []
  | _, _ => []

/-- What the items of sequences begin with in common; nothing if not all forms are sequences. -/
def sharedStart : List Form → List Form
  | [] => []
  | sequence items :: rest =>
    rest.foldl
      (fun shared form =>
        match form with
        | sequence others => sharedItems shared others
        | _ => [])
      items
  | _ => []

/-- The choice between alternatives; `fuel` bounds how often something is taken out in front. -/
def choose : Nat → List Form → Form
  | 0, alternatives => choice alternatives
  | fuel + 1, alternatives =>
    let flat := alternatives.flatMap fun form =>
      match form with
      | choice inside => inside
      | form => [form]
    match flat with
    | [form] => form
    | _ =>
      match flat.mapM char?, flat.mapM ranges? with
      | some chars, _ => ofRanges (chars.map fun c => (c.toNat, c.toNat))
      | none, some sets => ofRanges sets.flatten
      | none, none =>
        let shared := sharedStart flat
        if shared.isEmpty then choice flat
        else
          let rests := flat.map fun form => ofItems (form.items.drop shared.length)
          ofItems (shared.foldr push (choose fuel rests).items)

def ofAlternatives (alternatives : List Form) : Form :=
  choose (alternatives.foldl (fun count form => count + form.items.length) 1) alternatives

/-- The alternatives of a pattern in normal form: one, unless it is a choice. -/
def alternatives : Pattern Step → List Form
  | .empty => [empty]
  | .step (.char chars) => [ofRanges chars.toRanges]
  | .step (.condition wanted) => [condition wanted]
  | .sequence first second =>
    [append (ofAlternatives (alternatives first)) (ofAlternatives (alternatives second))]
  | .choice left right => alternatives left ++ alternatives right
  | .repetition inside low high greedy =>
    [repeated (ofAlternatives (alternatives inside)) low high greedy]
  | .group noted inside =>
    let form := ofAlternatives (alternatives inside)
    [if noted then capture form else form]

/-- The normal form of a pattern. -/
def ofPattern (pattern : Pattern Step) : Form :=
  ofAlternatives (alternatives pattern)

end Form

end CommandSynthesis.Regex
