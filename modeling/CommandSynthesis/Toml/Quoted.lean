import CommandSynthesis.Text.Hexadecimal
import CommandSynthesis.Toml.Line

set_option autoImplicit false

/-!
# Quoted texts

A text stands between double quotes, where a backslash begins an escape, or between single quotes,
where every character stands for itself. Between threefold quotes a text may have breaks, each read
as a line feed; a break right after the opening quotes is not part of it, and up to two quotes may
stand before the closing ones.
-/

namespace CommandSynthesis.Toml

/-- The character given by a number of hexadecimal digits at the front of a text. -/
def coded? (count : Nat) (text : List Char) : Option Char := do
  let run := text.take count
  if run.length < count then none
  else Text.charOf? (← Text.hexNumber? run)

/-- The character that an escape stands for, after its backslash, and the length of the escape. -/
def escape? : List Char → Option (Char × Nat)
  | [] => none
  | c :: rest =>
    if c = 'b' then some ('\x08', 1)
    else if c = 't' then some ('\t', 1)
    else if c = 'n' then some ('\n', 1)
    else if c = 'f' then some ('\x0c', 1)
    else if c = 'r' then some ('\r', 1)
    else if c = '"' then some ('"', 1)
    else if c = '\\' then some ('\\', 1)
    else if c = 'u' then (coded? 4 rest).map (·, 5)
    else if c = 'U' then (coded? 8 rest).map (·, 9)
    else none

/-- Reads the rest of a text between double quotes; `done` holds what comes before, in reverse. -/
def readBasic (done : List Char) : List Char → Option (String × List Char)
  | [] => none
  | c :: rest =>
    if c = '"' then some (String.ofList done.reverse, rest)
    else if c = '\\' then
      match escape? rest with
      | some (char, length) => readBasic (char :: done) (rest.drop length)
      | none => none
    else if isPlain c then readBasic (c :: done) rest
    else none
termination_by text => text.length
decreasing_by all_goals simp only [List.length_cons, List.length_drop]; omega

/-- Reads the rest of a text between single quotes. -/
def readLiteral (done : List Char) : List Char → Option (String × List Char)
  | [] => none
  | c :: rest =>
    if c = '\'' then some (String.ofList done.reverse, rest)
    else if isPlain c then readLiteral (c :: done) rest
    else none

/-- Ends a text at its closing quotes: of the quotes that follow, up to two belong to it. -/
def closeBlock (quote : Char) (done text : List Char) : String × List Char :=
  let kept := (text.take 2).takeWhile (· = quote)
  (String.ofList (done.reverse ++ kept), text.drop kept.length)

/-- Reads the rest of a text between threefold double quotes. A backslash at the end of a line joins
it to the next one that is not blank; `joining` tells whether blanks and breaks are passed over. -/
def readBasicBlock (joining : Bool) (done : List Char) : List Char → Option (String × List Char)
  | [] => none
  | '"' :: '"' :: '"' :: rest => some (closeBlock '"' done rest)
  | '\r' :: '\n' :: rest => readBasicBlock joining (if joining then done else '\n' :: done) rest
  | '\n' :: rest => readBasicBlock joining (if joining then done else '\n' :: done) rest
  | c :: rest =>
    if joining && isBlank c then readBasicBlock true done rest
    else if c = '\\' then
      if (break? (skipBlanks rest)).isSome then readBasicBlock true done rest
      else
        match escape? rest with
        | some (char, length) => readBasicBlock false (char :: done) (rest.drop length)
        | none => none
    else if isPlain c then readBasicBlock false (c :: done) rest
    else none
termination_by text => text.length
decreasing_by all_goals simp only [List.length_cons, List.length_drop]; omega

/-- Reads the rest of a text between threefold single quotes. -/
def readLiteralBlock (done : List Char) : List Char → Option (String × List Char)
  | [] => none
  | '\'' :: '\'' :: '\'' :: rest => some (closeBlock '\'' done rest)
  | '\r' :: '\n' :: rest => readLiteralBlock ('\n' :: done) rest
  | '\n' :: rest => readLiteralBlock ('\n' :: done) rest
  | c :: rest => if isPlain c then readLiteralBlock (c :: done) rest else none

/-- A text without a break that may be at its front. -/
def skipBreak (text : List Char) : List Char :=
  (break? text).getD text

/-- Reads a quoted text in any of the four forms. -/
def readQuoted : List Char → Option (String × List Char)
  | '"' :: '"' :: '"' :: rest => readBasicBlock false [] (skipBreak rest)
  | '"' :: rest => readBasic [] rest
  | '\'' :: '\'' :: '\'' :: rest => readLiteralBlock [] (skipBreak rest)
  | '\'' :: rest => readLiteral [] rest
  | _ => none

end CommandSynthesis.Toml
