import CommandSynthesis.Decimal.Shortest
import CommandSynthesis.Json.Basic

set_option autoImplicit false

/-!
# Writing JSON

The compact form has no blanks; the indented form puts every item and member on a line of its own,
two blanks deeper than the bracket before it. Strings escape quotes, backslashes and the control
characters below the blank, and nothing else.
-/

namespace CommandSynthesis

def Number.print : Number → String
  | .integer value => Decimal.ofInt value
  | .real value => value.print

namespace Json

/-- The hexadecimal digit of a number below sixteen, in lower case. -/
def hexChar (d : Nat) : Char :=
  if d < 10 then Char.ofNat (d + '0'.toNat) else Char.ofNat (d - 10 + 'a'.toNat)

/-- What is written for a character of a string. -/
def escapeChar (c : Char) : List Char :=
  if c = '"' then ['\\', '"']
  else if c = '\\' then ['\\', '\\']
  else if c = '\n' then ['\\', 'n']
  else if c = '\r' then ['\\', 'r']
  else if c = '\t' then ['\\', 't']
  else if c = '\x08' then ['\\', 'b']
  else if c = '\x0c' then ['\\', 'f']
  else if c.toNat < 0x20 then ['\\', 'u', '0', '0', hexChar (c.toNat / 16), hexChar (c.toNat % 16)]
  else [c]

def quote (text : String) : List Char :=
  '"' :: text.toList.flatMap escapeChar ++ ['"']

mutual

def compactChars : Json → List Char
  | .null => "null".toList
  | .bool true => "true".toList
  | .bool false => "false".toList
  | .number value => value.print.toList
  | .string value => quote value
  | .array [] => ['[', ']']
  | .array (item :: rest) => '[' :: compactChars item ++ compactItems rest ++ [']']
  | .object [] => ['{', '}']
  | .object ((key, value) :: rest) =>
    '{' :: quote key ++ ':' :: compactChars value ++ compactMembers rest ++ ['}']

/-- The compact text of items that follow another. -/
def compactItems : List Json → List Char
  | [] => []
  | item :: rest => ',' :: compactChars item ++ compactItems rest

/-- The compact text of members that follow another. -/
def compactMembers : List (String × Json) → List Char
  | [] => []
  | (key, value) :: rest =>
    ',' :: quote key ++ ':' :: compactChars value ++ compactMembers rest

end

def compact (value : Json) : String :=
  String.ofList (compactChars value)

/-- A line break and the indentation at a depth. -/
def lineBreak (depth : Nat) : List Char :=
  '\n' :: List.replicate (2 * depth) ' '

mutual

/-- The indented text of a value at a depth. -/
def prettyChars (depth : Nat) : Json → List Char
  | .array (item :: rest) =>
    '[' :: lineBreak (depth + 1) ++ prettyChars (depth + 1) item ++ prettyItems (depth + 1) rest
      ++ lineBreak depth ++ [']']
  | .object ((key, value) :: rest) =>
    '{' :: lineBreak (depth + 1) ++ quote key ++ ':' :: ' ' :: prettyChars (depth + 1) value
      ++ prettyMembers (depth + 1) rest ++ lineBreak depth ++ ['}']
  | .array [] => ['[', ']']
  | .object [] => ['{', '}']
  | .null => compactChars .null
  | .bool value => compactChars (.bool value)
  | .number value => compactChars (.number value)
  | .string value => compactChars (.string value)

/-- The indented text of items that follow another. -/
def prettyItems (depth : Nat) : List Json → List Char
  | [] => []
  | item :: rest =>
    ',' :: lineBreak depth ++ prettyChars depth item ++ prettyItems depth rest

/-- The indented text of members that follow another. -/
def prettyMembers (depth : Nat) : List (String × Json) → List Char
  | [] => []
  | (key, value) :: rest =>
    ',' :: lineBreak depth ++ quote key ++ ':' :: ' ' :: prettyChars depth value
      ++ prettyMembers depth rest

end

def pretty (value : Json) : String :=
  String.ofList (prettyChars 0 value)

end Json

end CommandSynthesis
