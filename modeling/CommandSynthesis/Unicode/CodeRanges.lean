import CommandSynthesis.Text.Hexadecimal

set_option autoImplicit false

/-!
# Ranges of code points

A set of characters given by ranges of code points, the form in which the tables of character
properties of this library are written.
-/

namespace CommandSynthesis.Unicode

/-- A set of code points: the union of the ranges from a first to a last code point. -/
abbrev CodeRanges := List (Nat × Nat)

namespace CodeRanges

/-- Whether a code point lies in one of the ranges. -/
def contains (ranges : CodeRanges) (code : Nat) : Bool :=
  ranges.any fun range => range.1 ≤ code && code ≤ range.2

def maxCode : Nat := 0x10FFFF

/-- Joins the ranges that overlap or touch, given in the order of their first code points, to the
range from `low` to `high`. -/
def joinOn (low high : Nat) : CodeRanges → CodeRanges
  | [] => [(low, high)]
  | (first, last) :: rest =>
    if first ≤ high + 1 then joinOn low (max high last) rest
    else (low, high) :: joinOn first last rest

/-- The same set by ranges in order, with a gap between any two of them. -/
def normalize (ranges : CodeRanges) : CodeRanges :=
  match ranges.mergeSort fun left right => left.1 ≤ right.1 with
  | [] => []
  | (low, high) :: rest => joinOn low high rest

/-- The gaps between ranges in order, from a code point on. -/
def gaps (start : Nat) : CodeRanges → CodeRanges
  | [] => if start ≤ maxCode then [(start, maxCode)] else []
  | (first, last) :: rest =>
    if start < first then (start, first - 1) :: gaps (last + 1) rest else gaps (last + 1) rest

/-- The code points that are not in a set. -/
def complement (ranges : CodeRanges) : CodeRanges :=
  gaps 0 ranges.normalize

/-- The code points of one set that are not in another. -/
def difference (left right : CodeRanges) : CodeRanges :=
  complement (left.complement ++ right)

/-- The range from its first code point, if that was written apart, to its last one; nothing if no
code point was written. -/
def ofEnds (first : Option Nat) : Option Nat → CodeRanges
  | some last => [(first.getD last, last)]
  | none => []

/-- Reads a table: ranges separated by blanks, each a code point or two joined by `-`, in
hexadecimal. `first` holds the first code point of a range once its `-` has been seen, `code` what
has been read of a code point. -/
def readTable (first code : Option Nat) : List Char → CodeRanges
  | [] => ofEnds first code
  | '-' :: rest => readTable code none rest
  | c :: rest =>
    match Text.hexValue? c with
    | some digit => readTable first (some (16 * code.getD 0 + digit)) rest
    | none => ofEnds first code ++ readTable none none rest

def ofTable (table : String) : CodeRanges :=
  readTable none none table.toList

/-- The ranges of the table that stands under a name; a table may have several names. -/
def find? (tables : List (List String × String)) (name : String) : Option CodeRanges :=
  (tables.find? fun entry => entry.1.contains name).map fun entry => ofTable entry.2

end CodeRanges

end CommandSynthesis.Unicode
