set_option autoImplicit false

/-!
# Words of a shell command

A text is written as one shell word between single quotes. A single quote in it closes the quotes,
stands between double quotes, and opens them again.

How a POSIX shell cuts a command into words, by quotes, backslashes, blanks and comments alone: the
machine that reads one character at a time, and the words of a whole command. A command whose quotes
are not closed has no words.

The words are lists of letters of any kind into which characters can be put, so that the machine
can also be run on commands with holes in them.
-/

namespace CommandSynthesis.Shell

/-! ## Quoting -/

/-- What is written for a character between single quotes. -/
def quoteChar (c : Char) : List Char :=
  if c = '\'' then ['\'', '"', '\'', '"', '\''] else [c]

def quote (text : List Char) : List Char :=
  '\'' :: text.flatMap quoteChar ++ ['\'']

def quoteString (text : String) : String :=
  String.ofList (quote text.toList)

/-! ## Cutting into words -/

inductive Place where
  /-- Between words. -/
  | between
  /-- After a backslash between words. -/
  | betweenEscape
  /-- In a word, outside quotes. -/
  | unquoted
  /-- After a backslash in a word outside quotes. -/
  | unquotedEscape
  | singleQuoted
  | doubleQuoted
  /-- After a backslash between double quotes. -/
  | doubleQuotedEscape
  | comment
  deriving DecidableEq, Repr

/-- Whether nothing lends a special meaning to what comes: no quotes, no backslash, no comment. -/
def Place.isPlain : Place → Bool
  | between | unquoted => true
  | _ => false

/-- What has been read of a command: the finished words, the word at hand, and the place. -/
structure Reading (Letter : Type) where
  words : List (List Letter)
  word : List Letter
  place : Place
  deriving DecidableEq, Repr

namespace Reading

variable {Letter : Type}

def start : Reading Letter := ⟨[], [], .between⟩

/-- Adds a letter to the word at hand and goes on at a place. -/
def add (reading : Reading Letter) (letter : Letter) (place : Place) : Reading Letter :=
  { reading with word := reading.word ++ [letter], place }

def moveTo (reading : Reading Letter) (place : Place) : Reading Letter :=
  { reading with place }

def finish (reading : Reading Letter) : Reading Letter :=
  ⟨reading.words ++ [reading.word], [], .between⟩

def isSeparator (c : Char) : Bool :=
  c == ' ' || c == '\t' || c == '\n'

/-- Characters that lose their meaning after a backslash between double quotes. -/
def isEscapable (c : Char) : Bool :=
  c == '$' || c == '\x60' || c == '"' || c == '\\'

def step (letter : Char → Letter) (reading : Reading Letter) (c : Char) : Reading Letter :=
  match reading.place with
  | .between =>
    if c = '\'' then reading.moveTo .singleQuoted
    else if c = '"' then reading.moveTo .doubleQuoted
    else if c = '\\' then reading.moveTo .betweenEscape
    else if isSeparator c then reading
    else if c = '#' then reading.moveTo .comment
    else reading.add (letter c) .unquoted
  | .betweenEscape => if c = '\n' then reading.moveTo .between else reading.add (letter c) .unquoted
  | .unquoted =>
    if c = '\'' then reading.moveTo .singleQuoted
    else if c = '"' then reading.moveTo .doubleQuoted
    else if c = '\\' then reading.moveTo .unquotedEscape
    else if isSeparator c then reading.finish
    else reading.add (letter c) .unquoted
  | .unquotedEscape =>
    if c = '\n' then reading.moveTo .unquoted else reading.add (letter c) .unquoted
  | .singleQuoted =>
    if c = '\'' then reading.moveTo .unquoted else reading.add (letter c) .singleQuoted
  | .doubleQuoted =>
    if c = '"' then reading.moveTo .unquoted
    else if c = '\\' then reading.moveTo .doubleQuotedEscape
    else reading.add (letter c) .doubleQuoted
  | .doubleQuotedEscape =>
    if c = '\n' then reading.moveTo .doubleQuoted
    else if isEscapable c then reading.add (letter c) .doubleQuoted
    else (reading.add (letter '\\') .doubleQuoted).add (letter c) .doubleQuoted
  | .comment => if c = '\n' then reading.moveTo .between else reading

def run (letter : Char → Letter) (reading : Reading Letter) (text : List Char) : Reading Letter :=
  text.foldl (step letter) reading

/-- The words once the command has ended; none when quotes are open. -/
def words? (letter : Char → Letter) (reading : Reading Letter) : Option (List (List Letter)) :=
  match reading.place with
  | .between | .comment => some reading.words
  | .unquoted => some (reading.words ++ [reading.word])
  | .betweenEscape | .unquotedEscape => some (reading.words ++ [reading.word ++ [letter '\\']])
  | .singleQuoted | .doubleQuoted | .doubleQuotedEscape => none

end Reading

def words? (command : List Char) : Option (List (List Char)) :=
  (Reading.start.run id command).words? id

end CommandSynthesis.Shell
