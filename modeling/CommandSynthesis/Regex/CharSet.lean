import CommandSynthesis.Unicode.Case
import CommandSynthesis.Unicode.Property

set_option autoImplicit false

/-!
# Sets of characters

Sets built from ranges of code points by the operations of classes, and the characters of words.
-/

namespace CommandSynthesis.Regex

open Unicode

inductive CharSet where
  | ranges (ranges : CodeRanges)
  | complement (inside : CharSet)
  /-- What differs in case alone from a member. -/
  | anyCase (inside : CharSet)
  | union (left right : CharSet)
  | intersection (left right : CharSet)
  | difference (left right : CharSet)
  | symmetricDifference (left right : CharSet)
  deriving Repr, Inhabited

namespace CharSet

def contains (set : CharSet) (code : Nat) : Bool :=
  match set with
  | ranges inside => inside.contains code
  | complement inside => !inside.contains code
  | anyCase inside => (caseOrbit code).any inside.contains
  | union left right => left.contains code || right.contains code
  | intersection left right => left.contains code && right.contains code
  | difference left right => left.contains code && !right.contains code
  | symmetricDifference left right => left.contains code != right.contains code

def none : CharSet := ranges []

def ofChar (c : Char) : CharSet := ranges [(c.toNat, c.toNat)]

/-- The members of a set, or the other characters. -/
def orComplement (set : CharSet) (negated : Bool) : CharSet :=
  if negated then complement set else set

def toRanges : CharSet → CodeRanges
  | ranges inside => inside.normalize
  | complement inside => inside.toRanges.complement
  | anyCase inside => (inside.toRanges ++ caseVariants inside.toRanges).normalize
  | union left right => (left.toRanges ++ right.toRanges).normalize
  | intersection left right =>
    (left.toRanges.complement ++ right.toRanges.complement).complement
  | difference left right => left.toRanges.difference right.toRanges
  | symmetricDifference left right =>
    (left.toRanges.difference right.toRanges ++ right.toRanges.difference left.toRanges).normalize

end CharSet

/-- Code points of words: letters, marks, digits, connecting punctuation and joiners. -/
def wordRanges : CodeRanges :=
  Property.alphabetic ++ Category.mark ++ Category.decimalNumber ++ Category.connectorPunctuation
    ++ Property.joinControl

def asciiWordRanges : CodeRanges :=
  [(0x30, 0x39), (0x41, 0x5A), (0x5F, 0x5F), (0x61, 0x7A)]

inductive Words where
  | unicode
  | ascii
  deriving DecidableEq, Repr, Inhabited

def Words.ranges : Words → CodeRanges
  | unicode => wordRanges
  | ascii => asciiWordRanges

def asciiRanges (name : String) : CodeRanges :=
  if name = "alnum" then [(0x30, 0x39), (0x41, 0x5A), (0x61, 0x7A)]
  else if name = "alpha" then [(0x41, 0x5A), (0x61, 0x7A)]
  else if name = "ascii" then [(0x00, 0x7F)]
  else if name = "blank" then [(0x09, 0x09), (0x20, 0x20)]
  else if name = "cntrl" then [(0x00, 0x1F), (0x7F, 0x7F)]
  else if name = "digit" then [(0x30, 0x39)]
  else if name = "graph" then [(0x21, 0x7E)]
  else if name = "lower" then [(0x61, 0x7A)]
  else if name = "print" then [(0x20, 0x7E)]
  else if name = "punct" then [(0x21, 0x2F), (0x3A, 0x40), (0x5B, 0x60), (0x7B, 0x7E)]
  else if name = "space" then [(0x09, 0x0D), (0x20, 0x20)]
  else if name = "upper" then [(0x41, 0x5A)]
  else if name = "word" then asciiWordRanges
  else if name = "xdigit" then [(0x30, 0x39), (0x41, 0x46), (0x61, 0x66)]
  else []

end CommandSynthesis.Regex
