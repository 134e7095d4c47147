import CommandSynthesis.Decimal.Digits
import CommandSynthesis.Toml.Line

set_option autoImplicit false

/-!
# Writing TOML

A text is written in the first form that shows it as it is: between double quotes, between single
quotes, between threefold double quotes and between threefold single quotes. If none does, it is
written with escapes between double quotes, threefold ones if it has breaks.
-/

namespace CommandSynthesis.Toml

/-- The length of the longest run of a character. -/
def longestRun (mark : Char) (run : Nat) : List Char → Nat
  | [] => run
  | c :: rest =>
    if c = mark then longestRun mark (run + 1) rest else max run (longestRun mark 0 rest)

/-- Whether a text has characters that only an escape can show. -/
def needsCodes (text : List Char) : Bool :=
  text.any fun c => !isPlain c && c ≠ '\n'

inductive Style where
  | basic
  | literal
  | basicBlock
  | literalBlock
  deriving DecidableEq, Repr

namespace Style

def isBlock : Style → Bool
  | basicBlock | literalBlock => true
  | basic | literal => false

/-- The form in which a text is written. -/
def ofText (text : List Char) : Style :=
  let breaks := text.contains '\n'
  let codes := needsCodes text
  let slashes := text.contains '\\'
  let double := longestRun '"' 0 text
  let single := longestRun '\'' 0 text
  if !codes && !slashes && double = 0 && !breaks then .basic
  else if !codes && single = 0 && !breaks then .literal
  else if !codes && !slashes && double ≤ 2 then .basicBlock
  else if !codes && single ≤ 2 then .literalBlock
  else if breaks then .basicBlock
  else .basic

def quotes : Style → List Char
  | basic => ['"']
  | literal => ['\'']
  | basicBlock => ['"', '"', '"']
  | literalBlock => ['\'', '\'', '\'']

end Style

def fourDigits (code : Nat) : List Char :=
  let digits := (Nat.toDigits 16 code).map Char.toUpper
  List.replicate (4 - digits.length) '0' ++ digits

/-- The escape of a character between double quotes, if it needs one. -/
def escapeOf? (c : Char) : Option (List Char) :=
  if c = '\x08' then some ['\\', 'b']
  else if c = '\t' then some ['\\', 't']
  else if c = '\n' then some ['\\', 'n']
  else if c = '\x0c' then some ['\\', 'f']
  else if c = '\r' then some ['\\', 'r']
  else if c = '\\' then some ['\\', '\\']
  else if isPlain c then none
  else some (['\\', 'u'] ++ fourDigits c.toNat)

/-- What is written for a text between double quotes. Inside threefold quotes a break and up to two
quotes in a row stand for themselves; `run` counts the quotes just before. -/
def escapeText (block : Bool) (run : Nat) : List Char → List Char
  | [] => []
  | c :: rest =>
    if c = '"' then
      if block && run < 2 then '"' :: escapeText block (run + 1) rest
      else '\\' :: '"' :: escapeText block 0 rest
    else if c = '\n' && block then '\n' :: escapeText block 0 rest
    else (escapeOf? c).getD [c] ++ escapeText block 0 rest

/-- A text as it is written in a document. Threefold quotes stand on a line of their own when the
text has breaks. -/
def printString (text : String) : String :=
  let text := text.toList
  let style := Style.ofText text
  let opening :=
    if style.isBlock && text.contains '\n' then style.quotes ++ ['\n'] else style.quotes
  let body :=
    match style with
    | .basic => escapeText false 0 text
    | .basicBlock => escapeText true 0 text
    | .literal | .literalBlock => text
  String.ofList (opening ++ body ++ style.quotes)

def printBool (value : Bool) : String :=
  if value then "true" else "false"

/-- A natural number as it is written in a document; none when it is beyond the integers of a
document. -/
def printNat? (value : Nat) : Option String :=
  if value < 0x8000000000000000 then some (Decimal.ofNat value) else none

/-- A line that gives a key a value, both as they are written. -/
def printPair (key value : String) : String :=
  key ++ " = " ++ value ++ "\n"

/-- A table under its header, with the lines for its keys. -/
def printTable (name : String) (lines : List String) : String :=
  "[" ++ name ++ "]\n" ++ String.join lines

end CommandSynthesis.Toml
