import CommandSynthesis.Toml.Definition
import CommandSynthesis.Toml.Quoted
import CommandSynthesis.Toml.Scalar

set_option autoImplicit false

/-!
# Reading TOML

From a text to the members of the document, if the text is a document. Arrays may reach over several
lines, inline tables may not.
-/

namespace CommandSynthesis.Toml

/-- The number of arrays and inline tables that may stand inside one another, and of names that may
stand in one key. -/
def maxDepth : Nat := 79

def isNameChar (c : Char) : Bool :=
  c.isAlphanum || c == '_' || c == '-'

def readName : List Char → Option (String × List Char)
  | [] => none
  | c :: rest =>
    if c = '"' then readBasic [] rest
    else if c = '\'' then readLiteral [] rest
    else
      match (c :: rest).span isNameChar with
      | ([], _) => none
      | (name, after) => some (String.ofList name, after)

/-- Reads a key: names with dots between them, at most `count`. -/
def readPath : Nat → List Char → Option (List String × List Char)
  | 0, _ => none
  | count + 1, text => do
    let (name, rest) ← readName (skipBlanks text)
    match skipBlanks rest with
    | '.' :: rest =>
      let (path, after) ← readPath count rest
      return (name :: path, after)
    | after => return ([name], after)

/-- A text without the word at its front; none if another text is there. -/
def readWord : List Char → List Char → Option (List Char)
  | [], text => some text
  | _ :: _, [] => none
  | expected :: word, c :: text => if c = expected then readWord word text else none

mutual

/-- Reads a value, in which `depth` brackets may stand inside one another; `fuel` bounds the steps
taken. -/
def readValue (depth : Nat) : Nat → List Char → Option (Value × List Char)
  | 0, _ => none
  | _, [] => none
  | fuel + 1, c :: rest =>
    if c = '"' ∨ c = '\'' then
      (readQuoted (c :: rest)).map fun (text, after) => (.string text, after)
    else if c = '[' then
      match depth with
      | 0 => none
      | depth + 1 =>
        (readItems depth fuel rest).map fun (items, after) => (.array items, after)
    else if c = '{' then
      match depth with
      | 0 => none
      | depth + 1 => do
        let (scope, after) ←
          match skipBlanks rest with
          | '}' :: after => some ([], after)
          | rest => readPairs depth [] fuel rest
        return (.table (Node.toMembers scope), after)
    else if c = 't' then
      (readWord ['r', 'u', 'e'] rest).map fun after => (.bool true, after)
    else if c = 'f' then
      (readWord ['a', 'l', 's', 'e'] rest).map fun after => (.bool false, after)
    else readScalar (c :: rest)

/-- Reads items up to the closing bracket; a comma may stand after the last. -/
def readItems (depth : Nat) : Nat → List Char → Option (List Value × List Char)
  | 0, _ => none
  | fuel + 1, text =>
    match skipLines false text with
    | ']' :: after => some ([], after)
    | rest => do
      let (item, rest) ← readValue depth fuel rest
      match skipLines false rest with
      | ',' :: rest =>
        let (items, after) ← readItems depth fuel rest
        return (item :: items, after)
      | ']' :: after => return ([item], after)
      | _ => none

/-- Reads keys and values up to the closing brace and adds them to a table. -/
def readPairs (depth : Nat) (scope : Scope) : Nat → List Char → Option (Scope × List Char)
  | 0, _ => none
  | fuel + 1, text => do
    let (path, rest) ← readPath maxDepth text
    match rest with
    | '=' :: rest =>
      let (value, rest) ← readValue depth fuel (skipBlanks rest)
      let scope ← scope.assign path value
      match skipBlanks rest with
      | ',' :: rest => readPairs depth scope fuel rest
      | '}' :: after => return (scope, after)
      | _ => none
    | _ => none

end

/-- Reads what a line says, after the blanks at its front. -/
def readStatement (fuel : Nat) : List Char → Option (Statement × List Char)
  | '[' :: '[' :: rest => do
    let (path, rest) ← readPath maxDepth rest
    let after ← readWord [']', ']'] rest
    return (.openElement path, after)
  | '[' :: rest => do
    let (path, rest) ← readPath maxDepth rest
    let after ← readWord [']'] rest
    return (.openTable path, after)
  | text => do
    let (path, rest) ← readPath maxDepth text
    let rest ← readWord ['='] rest
    let (value, after) ← readValue maxDepth fuel (skipBlanks rest)
    return (.assign path value, after)

/-- Reads the statements of a text; `fuel` bounds the number of lines and the steps for each. -/
def readStatements : Nat → List Char → Option (List Statement)
  | 0, _ => none
  | fuel + 1, text =>
    match lineEnd? text with
    | some [] => some []
    | some rest => readStatements fuel rest
    | none => do
      let (statement, rest) ← readStatement fuel (skipBlanks text)
      let rest ← lineEnd? rest
      return statement :: (← readStatements fuel rest)

/-- The members of the document that a text holds. A mark of the byte order at the front is no part
of it. -/
def parse? (text : String) : Option Members := do
  let text := text.toList
  let text := if text.head? = some '\uFEFF' then text.drop 1 else text
  Members.ofStatements? (← readStatements (2 * text.length + 2) text)

end CommandSynthesis.Toml
