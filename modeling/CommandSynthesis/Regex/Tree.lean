import CommandSynthesis.Regex.Error

set_option autoImplicit false

/-!
# Trees of regular expressions

A regular expression as it is written: every group, class and repetition with the part of the
expression it stands in. What the parts match is settled later, since it depends on flags.
-/

namespace CommandSynthesis.Regex

/-- A character that stands for itself. `byte` tells that it is given by two hexadecimal digits,
which can also mean a byte. -/
structure Literal where
  char : Char
  byte : Bool
  span : Span
  deriving DecidableEq, Repr

inductive Shorthand where
  | digit
  | space
  | word
  deriving DecidableEq, Repr

/-- A condition on a place between two characters. -/
inductive Look where
  | lineStart
  | lineEnd
  | textStart
  | textEnd
  | wordBoundary
  | noWordBoundary
  | wordStart
  | wordEnd
  | wordStartHalf
  | wordEndHalf
  deriving DecidableEq, Repr

/-- A property of characters, by its name or by the value of a named property. -/
inductive Property where
  | named (name : String)
  | valued (name value : String)
  deriving DecidableEq, Repr

/-- How two sets of characters are combined in a class. -/
inductive SetOperation where
  | intersection
  | difference
  | symmetricDifference
  deriving DecidableEq, Repr

inductive ClassSet where
  | literal (text : Literal)
  | range (low high : Literal)
  | ascii (name : String) (negated : Bool) (span : Span)
  | property (property : Property) (negated : Bool) (span : Span)
  | shorthand (kind : Shorthand) (negated : Bool) (span : Span)
  | bracketed (negated : Bool) (inside : ClassSet) (span : Span)
  | union (items : List ClassSet) (span : Span)
  | combined (operation : SetOperation) (left right : ClassSet)
  deriving Repr, Inhabited

inductive Flag where
  | ignoreCase
  | multiLine
  | dotMatchesLineEnd
  | swapGreed
  | unicode
  | crlf
  | ignoreBlanks
  deriving DecidableEq, Repr

abbrev FlagChanges := List (Flag × Bool)

/-- What a group does besides holding parts together: it changes flags for them, or it notes the
part of a text that they match. -/
inductive Grouping where
  | changes (changes : FlagChanges)
  | capture
  deriving DecidableEq, Repr

inductive Node where
  | empty
  | flags (changes : FlagChanges)
  | literal (text : Literal)
  | dot (span : Span)
  | look (look : Look) (span : Span)
  | property (property : Property) (negated : Bool) (span : Span)
  | shorthand (kind : Shorthand) (negated : Bool) (span : Span)
  | set (inside : ClassSet)
  | repetition (inside : Node) (low : Nat) (high : Option Nat) (greedy : Bool) (span : Span)
  | group (grouping : Grouping) (inside : Node) (span : Span)
  | alternation (items : List Node) (span : Span)
  | sequence (items : List Node) (span : Span)
  deriving Repr, Inhabited

namespace ClassSet

def span : ClassSet → Span
  | literal text => text.span
  | range low high => ⟨low.span.start, high.span.stop⟩
  | ascii _ _ span => span
  | property _ _ span => span
  | shorthand _ _ span => span
  | bracketed _ _ span => span
  | union _ span => span
  | combined _ left right => ⟨left.span.start, right.span.stop⟩

end ClassSet

namespace Node

def span : Node → Span
  | empty => ⟨0, 0⟩
  | flags _ => ⟨0, 0⟩
  | literal text => text.span
  | dot span => span
  | look _ span => span
  | property _ _ span => span
  | shorthand _ _ span => span
  | set inside => inside.span
  | repetition _ _ _ _ span => span
  | group _ _ span => span
  | alternation _ span => span
  | sequence _ span => span

end Node

/-- How deep groups, repetitions and classes may stand inside one another. -/
def maxNesting : Nat := 250

/-- Goes one level deeper, unless that is too deep. -/
def deepen (span : Span) (depth : Nat) : Except Error Nat :=
  if depth < maxNesting then .ok (depth + 1)
  else .error ⟨.nestedTooDeep maxNesting, span, none⟩

mutual

/-- Checks how deep the parts of a class stand inside one another. -/
def ClassSet.checkNesting (depth : Nat) : ClassSet → Except Error Unit
  | .bracketed _ inside span => do inside.checkNesting (← deepen span depth)
  | .union [] _ => .ok ()
  | .union items span => do ClassSet.checkItems (← deepen span depth) items
  | .combined operation left right => do
    let depth ← deepen (ClassSet.combined operation left right).span depth
    left.checkNesting depth
    right.checkNesting depth
  | _ => .ok ()

def ClassSet.checkItems (depth : Nat) : List ClassSet → Except Error Unit
  | [] => .ok ()
  | item :: rest => do
    item.checkNesting depth
    ClassSet.checkItems depth rest

end

mutual

/-- Checks how deep the parts of an expression stand inside one another. -/
def Node.checkNesting (depth : Nat) : Node → Except Error Unit
  | .set inside => inside.checkNesting depth
  | .repetition inside _ _ _ span => do inside.checkNesting (← deepen span depth)
  | .group _ inside span => do inside.checkNesting (← deepen span depth)
  | .alternation items span => do Node.checkItems (← deepen span depth) items
  | .sequence items span => do Node.checkItems (← deepen span depth) items
  | _ => .ok ()

def Node.checkItems (depth : Nat) : List Node → Except Error Unit
  | [] => .ok ()
  | item :: rest => do
    item.checkNesting depth
    Node.checkItems depth rest

end

end CommandSynthesis.Regex
