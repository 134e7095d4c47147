import CommandSynthesis.Text.Style
import CommandSynthesis.Time.Printer

set_option autoImplicit false

/-!
# Log events

What the parts of the program have to say about their work, and how it is written to a log.
-/

namespace CommandSynthesis.Log

open Text (Style)

inductive Level where
  | error
  | warn
  | info
  | debug
  | trace
  deriving DecidableEq, Repr

inductive Source where
  | engine
  | store
  | history
  | preferences
  | commands
  deriving DecidableEq, Repr

structure Event where
  level : Level
  source : Source
  message : String
  deriving DecidableEq, Repr

namespace Level

/-- The rank of a level: the more there is to log at it, the higher. -/
def rank : Level → Nat
  | error => 1
  | warn => 2
  | info => 3
  | debug => 4
  | trace => 5

/-- The name of a level in five columns. -/
def label : Level → String
  | error => "ERROR"
  | warn => " WARN"
  | info => " INFO"
  | debug => "DEBUG"
  | trace => "TRACE"

def style : Level → Style
  | error => ⟨31, 0⟩
  | warn => ⟨33, 0⟩
  | info => ⟨32, 0⟩
  | debug => ⟨34, 0⟩
  | trace => ⟨35, 0⟩

end Level

/-- The name under which a log can be asked for a part of the program. -/
def Source.name : Source → String
  | engine => "cmdsmith_common::engine"
  | store => "cmdsmith_common::store"
  | history => "cmdsmith_common::history"
  | preferences => "cmdsmith_common::preferences"
  | commands => "cmdsmithctl::commands"

/-- What is written for a character of a message: characters that could steer a terminal are given
by their code. -/
def plainChar (c : Char) : List Char :=
  if c = '\x1b' then ['\\', 'x', '1', 'b']
  else if c = '\x07' then ['\\', 'x', '0', '7']
  else if c = '\x08' then ['\\', 'x', '0', '8']
  else if c = '\x0c' then ['\\', 'x', '0', 'c']
  else if c = '\x7f' then ['\\', 'x', '7', 'f']
  else if 0x80 ≤ c.toNat ∧ c.toNat ≤ 0x9F then
    ['\\', 'u', '{'] ++ Nat.toDigits 16 c.toNat ++ ['}']
  else [c]

/-- The line for an event at a moment. -/
def Event.line (event : Event) (colored : Bool) (now : Instant) : String :=
  let paint (style : Style) (text : String) : String := if colored then style.paint text else text
  paint .dimmed now.stamp ++ " " ++ paint event.level.style event.level.label ++ " "
    ++ String.ofList (event.message.toList.flatMap plainChar)

end CommandSynthesis.Log
