import CommandSynthesis.Regex.Escape

set_option autoImplicit false

/-!
# Reading classes

A class between brackets: characters, ranges, escapes, named sets of ASCII characters, classes
inside, and the operations between them. All operations bind alike and group to the left.
-/

namespace CommandSynthesis.Regex

/-- Items that stand side by side in a class, the last one first. -/
structure Items where
  items : List ClassSet
  span : Span

namespace Items

/-- No items, at a place. -/
def none (offset : Nat) : Items := ⟨[], ⟨offset, offset⟩⟩

def push (items : Items) (item : ClassSet) : Items :=
  let start := if items.items.isEmpty then item.span.start else items.span.start
  ⟨item :: items.items, ⟨start, item.span.stop⟩⟩

def toSet (items : Items) : ClassSet :=
  match items.items with
  | [item] => item
  | all => .union all.reverse items.span

end Items

/-- What a reader of a class has open. -/
inductive ClassFrame where
  /-- A bracket, with the items before it and the part read when it was opened. -/
  | bracket (before : Items) (negated : Bool) (opening : Span)
  /-- An operation that waits for its right side. -/
  | operation (operation : SetOperation) (left : ClassSet)

namespace Reader

variable {α : Type}

def asciiNames : List String :=
  ["alnum", "alpha", "ascii", "blank", "cntrl", "digit", "graph", "lower", "print", "punct",
    "space", "upper", "word", "xdigit"]

/-- Reads a named set of ASCII characters between `[:` and `:]`; where there is none, nothing is
read. -/
def asciiClass? : Reader (Option ClassSet) := do
  let cursor ← get
  let start := cursor.offset
  match cursor.rest with
  | '[' :: ':' :: inside =>
    let (negated, inside) :=
      match inside with
      | '^' :: inside => (true, inside)
      | inside => (false, inside)
    let name := inside.takeWhile (· ≠ ':')
    if [':', ']'].isPrefixOf (inside.drop name.length) ∧
        asciiNames.contains (String.ofList name) then
      advance (name.length + if negated then 5 else 4)
      return some (.ascii (String.ofList name) negated ⟨start, ← offset⟩)
    else return none
  | _ => return none

/-- Gives up because the innermost bracket is not closed. -/
def failUnclosed : List ClassFrame → Reader α
  | [] => failBefore .classUnclosed
  | .bracket _ _ opening :: _ => fail .classUnclosed opening.start opening.stop
  | .operation _ _ :: rest => failUnclosed rest

/-- Reads hyphens that stand for themselves after an opening bracket; `fuel` bounds their number. -/
def leadingHyphens (start : Nat) (items : Items) : Nat → Reader Items
  | 0 => return items
  | fuel + 1 => do
    if (← peek?) = some '-' then
      let place ← offset
      let items := items.push (.literal ⟨'-', false, ⟨place, place + 1⟩⟩)
      if ¬ (← bumpOn) then fail .classUnclosed start start
      leadingHyphens start items fuel
    else return items

/-- Reads an opening bracket and what may stand after it alone: the mark of negation, hyphens and a
closing bracket that stands for itself. -/
def openBracket (before : Items) : Reader (ClassFrame × Items) := do
  let start ← offset
  if ¬ (← bumpOn) then fail .classUnclosed start (← offset)
  let negated := (← peek?) = some '^'
  if negated then
    if ¬ (← bumpOn) then fail .classUnclosed start (← offset)
  let items ← leadingHyphens start (.none (← offset)) ((← get).rest.length + 1)
  let mut items := items
  if items.items.isEmpty ∧ (← peek?) = some ']' then
    let place ← offset
    items := items.push (.literal ⟨']', false, ⟨place, place + 1⟩⟩)
    if ¬ (← bumpOn) then fail .classUnclosed start (← offset)
  return (.bracket before negated ⟨start, ← offset⟩, items)

/-- Ends the operation that waits for its right side, if there is one. -/
def closeOperation (right : ClassSet) : List ClassFrame → ClassSet × List ClassFrame
  | .operation operation left :: frames => (.combined operation left right, frames)
  | frames => (right, frames)

/-- Reads one item: an escape or a character. -/
def classItem : Reader Node := do
  match ← peek? with
  | some '\\' => escape
  | some c =>
    let start ← offset
    bump
    return .literal ⟨c, false, ⟨start, start + 1⟩⟩
  | none => failBefore .classUnclosed

def itemSet : Node → Reader ClassSet
  | .literal text => return .literal text
  | .property property negated span => return .property property negated span
  | .shorthand kind negated span => return .shorthand kind negated span
  | item => fail .classEscapeInvalid item.span.start item.span.stop

def rangeBound : Node → Reader Literal
  | .literal text => return text
  | item => fail .classRangeLiteral item.span.start item.span.stop

/-- Reads an item or a range of characters. -/
def classRange (frames : List ClassFrame) : Reader ClassSet := do
  let first ← classItem
  skipIgnored
  if ← atEnd then failUnclosed frames
  let second ← peekSecondOn?
  if (← peek?) ≠ some '-' ∨ second = some ']' ∨ second = some '-' then itemSet first
  else
    if ¬ (← bumpOn) then failUnclosed frames
    let last ← classItem
    let low ← rangeBound first
    let high ← rangeBound last
    if high.char < low.char then
      fail .classRangeInvalid low.span.start high.span.stop
    return .range low high

/-- The operation that the next two characters stand for. -/
def operation? : Reader (Option SetOperation) := do
  match ← peek?, ← peekSecond? with
  | some '&', some '&' => return some .intersection
  | some '-', some '-' => return some .difference
  | some '~', some '~' => return some .symmetricDifference
  | _, _ => return none

/-- Reads the rest of a class: `frames` are open, and `items` stand after the innermost of them;
`fuel` bounds the number of steps. -/
def classRest (frames : List ClassFrame) (items : Items) : Nat → Reader ClassSet
  | 0 => failUnclosed frames
  | fuel + 1 => do
    skipIgnored
    match ← peek? with
    | none => failUnclosed frames
    | some '[' =>
      match ← asciiClass? with
      | some item => classRest frames (items.push item) fuel
      | none =>
        let (frame, inside) ← openBracket items
        classRest (frame :: frames) inside fuel
    | some ']' =>
      match closeOperation items.toSet frames with
      | (inside, .bracket before negated opening :: outer) =>
        bump
        let closed := ClassSet.bracketed negated inside ⟨opening.start, ← offset⟩
        if outer.isEmpty then return closed else classRest outer (before.push closed) fuel
      | _ => failUnclosed frames
    | some _ =>
      match ← operation? with
      | some operation =>
        advance 2
        let (left, frames) := closeOperation items.toSet frames
        classRest (.operation operation left :: frames) (.none (← offset)) fuel
      | none =>
        let item ← classRange frames
        classRest frames (items.push item) fuel

/-- Reads a class from its opening bracket on. -/
def bracketed : Reader ClassSet := do
  let (frame, items) ← openBracket (.none (← offset))
  classRest [frame] items ((← get).rest.length + 1)

end Reader

end CommandSynthesis.Regex
