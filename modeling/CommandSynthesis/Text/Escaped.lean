import CommandSynthesis.Text.Hexadecimal
import CommandSynthesis.Unicode.Recent

set_option autoImplicit false

/-!
# Escaped text

A text between double quotes in which every character can be seen: quotes and backslashes have a
backslash before them, and what cannot be printed, or would join the character before it, is given
by its code point.
-/

namespace CommandSynthesis.Text

open Unicode

/-- Whether a character shows: it is the blank, or neither a separator nor ignored nor without a
meaning that shows. -/
def isPrintable (c : Char) : Bool :=
  c = ' ' || !(Recent.other.contains c.toNat || Category.separator.contains c.toNat
    || Property.defaultIgnorable.contains c.toNat)

/-- Whether a character joins the one before it. The two marks of voice for narrow katakana are
letters of a width of their own. -/
def isJoining (c : Char) : Bool :=
  Recent.graphemeExtend.contains c.toNat && !(0xFF9E ≤ c.toNat && c.toNat ≤ 0xFF9F)

/-- What is written for a character between quotes. -/
def escapedChar (c : Char) : List Char :=
  if c = '"' then ['\\', '"']
  else if c = '\\' then ['\\', '\\']
  else if c = '\n' then ['\\', 'n']
  else if c = '\r' then ['\\', 'r']
  else if c = '\t' then ['\\', 't']
  else if c = '\x00' then ['\\', '0']
  else if 0x20 ≤ c.toNat ∧ c.toNat < 0x7F then [c]
  else if isPrintable c ∧ ¬ isJoining c then [c]
  else ['\\', 'u', '{'] ++ hexDigits c.toNat ++ ['}']

/-- A text between quotes with its special characters escaped. -/
def escaped (text : String) : String :=
  String.ofList ('"' :: text.toList.flatMap escapedChar ++ ['"'])

end CommandSynthesis.Text
