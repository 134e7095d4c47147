set_option autoImplicit false

/-!
# Hexadecimal digits

The value of a digit of either case, the number that digits stand for, and the character that a
number stands for.
-/

namespace CommandSynthesis.Text

/-- The value of a hexadecimal digit of either case. -/
def hexValue? (c : Char) : Option Nat :=
  if '0' ≤ c ∧ c ≤ '9' then some (c.toNat - '0'.toNat)
  else if 'a' ≤ c ∧ c ≤ 'f' then some (c.toNat - 'a'.toNat + 10)
  else if 'A' ≤ c ∧ c ≤ 'F' then some (c.toNat - 'A'.toNat + 10)
  else none

/-- The number that hexadecimal digits stand for; none when a character is no digit. -/
def hexNumber? (text : List Char) : Option Nat :=
  text.foldlM (fun number c => (hexValue? c).map (16 * number + ·)) 0

/-- The hexadecimal digits of a number in lower case, without leading zeros. -/
def hexDigits (n : Nat) : List Char :=
  Nat.toDigits 16 n

/-- The character with a code point, if there is one. -/
def charOf? (code : Nat) : Option Char :=
  if code.isValidChar then some (Char.ofNat code) else none

end CommandSynthesis.Text
