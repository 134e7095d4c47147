import CommandSynthesis.CommandLine.Argument

set_option autoImplicit false

/-!
# Grammars

What a program takes as arguments: a tree of commands, each with options of its own. A command that
does something has places for values, any other has commands below it.
-/

namespace CommandSynthesis.CommandLine

/-- What was given to one command: options with their values, switches with an empty one, and the
values at its places. -/
structure Given where
  options : List (String × String) := []
  places : List String := []
  deriving DecidableEq, Repr

namespace Given

def isEmpty (given : Given) : Bool :=
  given.options.isEmpty && given.places.isEmpty

def has (given : Given) (option : String) : Bool :=
  (given.options.lookup option).isSome

/-- The value of an option that is given at most once. -/
def value? (given : Given) (option : String) : Option String :=
  given.options.lookup option

/-- The values of an option in the order in which they were given. -/
def values (given : Given) (option : String) : List String :=
  (given.options.filter fun entry => entry.1 = option).map Prod.snd

/-- The value at the first place; empty when there is none. -/
def first (given : Given) : String :=
  given.places.head?.getD ""

end Given

/-- What all commands have: a name, the names that lead to it, what it is for, and its options. -/
structure Head where
  name : String
  title : String
  about : String
  options : List OptionSpec
  deriving DecidableEq, Repr

/-- A tree of commands; what is given to one that does something makes a value. -/
inductive Grammar (α : Type) where
  | action (head : Head) (places : List Place) (build : Given → α)
  | group (head : Head) (commands : List (Grammar α))

namespace Grammar

variable {α : Type}

def head : Grammar α → Head
  | action head _ _ => head
  | group head _ => head

def commands : Grammar α → List (Grammar α)
  | action _ _ _ => []
  | group _ commands => commands

def places : Grammar α → List Place
  | action _ places _ => places
  | group _ _ => []

def isGroup : Grammar α → Bool
  | action _ _ _ => false
  | group _ _ => true

def command? (grammar : Grammar α) (name : String) : Option (Grammar α) :=
  grammar.commands.find? fun command => command.head.name = name

def option? (grammar : Grammar α) (name : String) : Option OptionSpec :=
  grammar.head.options.find? fun option => option.name = name

def optionLine (option : OptionSpec) : String :=
  "  " ++ option.label

def commandLine (command : Grammar α) : String :=
  "  " ++ command.head.name ++ "  " ++ command.head.about

def help (grammar : Grammar α) : String :=
  let usage := "Usage: " ++ grammar.head.title ++ " [OPTIONS]"
    ++ String.join (grammar.places.map fun place => " " ++ place.label)
    ++ if grammar.isGroup then " <COMMAND>" else ""
  let commands :=
    if grammar.isGroup then ["", "Commands:"] ++ grammar.commands.map commandLine else []
  let options := ["", "Options:"] ++ grammar.head.options.map optionLine
  "\n".intercalate ([grammar.head.about, "", usage] ++ commands ++ options) ++ "\n"

end Grammar

end CommandSynthesis.CommandLine
