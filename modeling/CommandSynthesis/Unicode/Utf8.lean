import CommandSynthesis.Unicode.CodeRanges

set_option autoImplicit false

/-!
# Byte sequences

The UTF-8 forms of the characters of a range, as sequences of ranges of bytes: the characters are
those whose bytes lie in the ranges of one of the sequences. Code points that are no characters have
no forms.
-/

namespace CommandSynthesis.Unicode

/-- A range of bytes, from the first to the last. -/
abbrev ByteRange := Nat × Nat

/-- The code points whose forms have one length: those from `first` to `last` have a byte counted
from `lead` and then `tail` bytes that go on. -/
structure FormLength where
  first : Nat
  last : Nat
  lead : Nat
  tail : Nat

/-- The lengths of forms; no character lies between the third and the fourth. -/
def formLengths : List FormLength :=
  [⟨0x00, 0x7F, 0x00, 0⟩, ⟨0x80, 0x7FF, 0xC0, 1⟩, ⟨0x800, 0xD7FF, 0xE0, 2⟩,
    ⟨0xE000, 0xFFFF, 0xE0, 2⟩, ⟨0x10000, 0x10FFFF, 0xF0, 3⟩]

/-- The sequences for the numbers from `low` to `high` whose last `tail` digits to the base 64 stand
in bytes that go on, and the rest in a byte counted from `lead`. -/
def byteSequences (lead low high : Nat) : Nat → List (List ByteRange)
  | 0 => [[(lead + low, lead + high)]]
  | tail + 1 =>
    let unit := Nat.pow 64 (tail + 1)
    let (first, last) := (low / unit, high / unit)
    let under (digit low high : Nat) : List (List ByteRange) :=
      (byteSequences 0x80 low high tail).map ((lead + digit, lead + digit) :: ·)
    if first = last then under first (low % unit) (high % unit)
    else
      let startsInside := low % unit ≠ 0
      let stopsInside := high % unit ≠ unit - 1
      let start := if startsInside then first + 1 else first
      let stop := if stopsInside then last else last + 1
      let whole := (lead + start, lead + stop - 1) :: List.replicate (tail + 1) (0x80, 0xBF)
      (if startsInside then under first (low % unit) (unit - 1) else [])
        ++ (if start < stop then [whole] else [])
        ++ (if stopsInside then under last 0 (high % unit) else [])

/-- The sequences for the characters of a range. -/
def rangeSequences (range : Nat × Nat) : List (List ByteRange) :=
  formLengths.flatMap fun form =>
    let low := max range.1 form.first
    let high := min range.2 form.last
    if low ≤ high then byteSequences form.lead low high form.tail else []

end CommandSynthesis.Unicode
