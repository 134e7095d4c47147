set_option autoImplicit false

/-!
# Arguments

The options and places of a command, the values they take, and what can be wrong with arguments.
-/

namespace CommandSynthesis.CommandLine

/-- What is wrong with the arguments. Options and places are given by their labels. -/
inductive UsageError where
  | unexpectedArgument (argument : String)
  | unexpectedValue (value label : String)
  | missingValue (label : String)
  | invalidValue (value label reason : String)
  | repeatedOption (label : String)
  | missingArguments
  | unknownCommand (name : String)
  | missingCommand (title : String)
  deriving DecidableEq, Repr

namespace UsageError

def message : UsageError → String
  | unexpectedArgument argument => "unexpected argument '" ++ argument ++ "' found"
  | unexpectedValue value label =>
    "unexpected value '" ++ value ++ "' for '" ++ label ++ "' found; no more were expected"
  | missingValue label => "a value is required for '" ++ label ++ "' but none was supplied"
  | invalidValue value label reason =>
    "invalid value '" ++ value ++ "' for '" ++ label ++ "': " ++ reason
  | repeatedOption label => "the argument '" ++ label ++ "' cannot be used multiple times"
  | missingArguments => "the following required arguments were not provided:"
  | unknownCommand name => "unrecognized subcommand '" ++ name ++ "'"
  | missingCommand title => "'" ++ title ++ "' requires a subcommand but one was not provided"

end UsageError

/-- Reads an assignment: a name that is not empty, an equals sign, and the value. The value may hold
equals signs. -/
def readAssignment (text : String) : Except String (String × String) :=
  match text.toList.span (· ≠ '=') with
  | (_, []) => .error ("expected NAME=VALUE, got '" ++ text ++ "'")
  | ([], _) => .error ("missing input name in '" ++ text ++ "'")
  | (name, _ :: value) => .ok (String.ofList name, String.ofList value)

inductive ValueKind where
  | text
  /-- A path, which may not be empty. -/
  | path
  | assignment
  deriving DecidableEq, Repr

namespace ValueKind

/-- Checks a value that is given to what has a label. -/
def check (kind : ValueKind) (label value : String) : Except UsageError Unit :=
  match kind with
  | text => .ok ()
  | path => if value.isEmpty then .error (.missingValue label) else .ok ()
  | assignment =>
    match readAssignment value with
    | .ok _ => .ok ()
    | .error reason => .error (.invalidValue value label reason)

end ValueKind

/-- An option. One that takes no value is a switch. -/
structure OptionSpec where
  name : String
  /-- How its value is called, and what kind of value it is. -/
  value : Option (String × ValueKind) := none
  repeatable : Bool := false
  deriving DecidableEq, Repr

/-- A place for a value after the name of a command. -/
structure Place where
  name : String
  kind : ValueKind := .text
  required : Bool := true
  deriving DecidableEq, Repr

def OptionSpec.label (option : OptionSpec) : String :=
  match option.value with
  | none => "--" ++ option.name
  | some (value, _) => "--" ++ option.name ++ " <" ++ value ++ ">"

def Place.label (place : Place) : String :=
  "<" ++ place.name ++ ">"

end CommandSynthesis.CommandLine
