import CommandSynthesis.CommandLine.Grammar

set_option autoImplicit false

/-!
# Reading arguments

Arguments are read one after another against a grammar. A value is checked when the next option or
place is met, or at the end, so an argument that nothing is known of is reported first. What is
wrong after the name of a command is reported before what is wrong in front of it.
-/

namespace CommandSynthesis.CommandLine

inductive Stop where
  | usage (error : UsageError)
  /-- A page of help is asked for. -/
  | help (page : String)
  /-- Nothing is given where something must be, and a page of help is all there is to say. -/
  | helpless (page : String)
  | version
  deriving DecidableEq, Repr

/-- What has been met and not been checked yet: an option, with its value once it is known, or the
value at a place. -/
inductive Pending where
  | option (spec : OptionSpec) (value : Option String)
  | place (spec : Place) (value : String)
  deriving DecidableEq, Repr

/-- How far the arguments of a command have been read. -/
structure Progress where
  given : Given := {}
  pending : Option Pending := none
  /-- Whether a double dash was met, after which all arguments are values for places. -/
  trailing : Bool := false
  deriving DecidableEq, Repr

namespace Progress

/-- Takes a value of an option, or a switch with an empty value. -/
def takeOption (progress : Progress) (spec : OptionSpec) (value : String) :
    Except UsageError Progress := do
  if ¬ spec.repeatable ∧ progress.given.has spec.name then throw (.repeatedOption spec.label)
  match spec.value with
  | none => pure ()
  | some (_, kind) => kind.check spec.label value
  let given := { progress.given with options := progress.given.options ++ [(spec.name, value)] }
  return { progress with given, pending := none }

def takePlace (progress : Progress) (spec : Place) (value : String) :
    Except UsageError Progress := do
  spec.kind.check spec.label value
  let given := { progress.given with places := progress.given.places ++ [value] }
  return { progress with given, pending := none }

def settle (progress : Progress) : Except UsageError Progress :=
  match progress.pending with
  | none => .ok progress
  | some (.option spec none) => .error (.missingValue spec.label)
  | some (.option spec (some value)) => progress.takeOption spec value
  | some (.place spec value) => progress.takePlace spec value

def waiting? (progress : Progress) : Option OptionSpec :=
  match progress.pending with
  | some (.option spec none) => some spec
  | _ => none

/-- The number of places that have been met. -/
def placeCount (progress : Progress) : Nat :=
  progress.given.places.length +
    match progress.pending with
    | some (.place _ _) => 1
    | _ => 0

end Progress

/-- The name of a long option and the value attached to it, if an argument is one. -/
def longOption? (argument : String) : Option (String × Option String) :=
  match argument.toList with
  | '-' :: '-' :: c :: rest =>
    match (c :: rest).span (· ≠ '=') with
    | (name, []) => some (String.ofList name, none)
    | (name, _ :: value) => some (String.ofList name, some (String.ofList value))
  | _ => none

/-- The first letter of short options, if an argument holds some. -/
def shortOption? (argument : String) : Option Char :=
  match argument.toList with
  | '-' :: c :: _ => if c = '-' then none else some c
  | _ => none

/-- The switch for the page of help, which every command has. -/
def helpSwitch : OptionSpec := { name := "help" }

/-- The switch for the version, which only the topmost command has. -/
def versionSwitch : OptionSpec := { name := "version" }

namespace Grammar

variable {α : Type}

/-- Reads an option by its long name, with a value attached or without. -/
def readLong (grammar : Grammar α) (progress : Progress) (name : String)
    (attached : Option String) : Except Stop Progress :=
  match grammar.option? name with
  | none => .error (.usage (.unexpectedArgument ("--" ++ name)))
  | some spec =>
    match spec.value, attached with
    | none, some value => .error (.usage (.unexpectedValue value spec.label))
    | none, none =>
      (do
        let progress ← progress.settle.mapError .usage
        if spec = helpSwitch then throw (.help grammar.help)
        if spec = versionSwitch then throw .version
        (progress.takeOption spec "").mapError .usage)
    | some _, some value =>
      (do
        let progress ← progress.settle
        progress.takeOption spec value).mapError .usage
    | some _, none =>
      (do
        let progress ← progress.settle
        return { progress with pending := some (.option spec none) }).mapError .usage

/-- Reads short options, of which the first alone matters, since each of them ends the reading. -/
def readShort (grammar : Grammar α) (progress : Progress) (letter : Char) :
    Except Stop Progress :=
  if letter = 'h' then grammar.readLong progress helpSwitch.name none
  else if letter = 'V' ∧ (grammar.option? versionSwitch.name).isSome then
    grammar.readLong progress versionSwitch.name none
  else .error (.usage (.unexpectedArgument ("-" ++ String.singleton letter)))

def readPlace (grammar : Grammar α) (progress : Progress) (argument : String) :
    Except Stop Progress :=
  match grammar.places[progress.placeCount]? with
  | some spec =>
    (do
      let progress ← progress.settle
      return { progress with pending := some (.place spec argument) }).mapError .usage
  | none =>
    if grammar.isGroup ∧ ¬ (progress.trailing ∧ (grammar.command? argument).isSome) then
      .error (.usage (.unknownCommand argument))
    else .error (.usage (.unexpectedArgument argument))

/-- Reads an argument that is no name of a command. -/
def readArgument (grammar : Grammar α) (progress : Progress) (argument : String) :
    Except Stop Progress :=
  if progress.trailing then grammar.readPlace progress argument
  else if argument = "--" then .ok { progress with trailing := true }
  else
    match longOption? argument, shortOption? argument, progress.waiting? with
    | some (name, attached), _, _ => grammar.readLong progress name attached
    | none, some letter, _ => grammar.readShort progress letter
    | none, none, some spec => .ok { progress with pending := some (.option spec (some argument)) }
    | none, none, none => grammar.readPlace progress argument

/-- The command that an argument leads to. Where a value is awaited there are no commands. -/
def descend? (grammar : Grammar α) (progress : Progress) (argument : String) :
    Option (Grammar α) :=
  if progress.trailing ∨ progress.waiting?.isSome then none else grammar.command? argument

/-- What a command makes of what was given to it once there are no more arguments. -/
def finish (grammar : Grammar α) (progress : Progress) : Except Stop (α × List Given) := do
  let given := (← progress.settle.mapError .usage).given
  match grammar with
  | .action _ places build =>
    if (places.drop given.places.length).any (·.required) then throw (.usage .missingArguments)
    return (build given, [given])
  | .group head _ =>
    if given.isEmpty then throw (.helpless grammar.help)
    throw (.usage (.missingCommand head.title))

/-- Reads arguments: what the command that they name makes of them, and what was given to each
command on the way to it, the topmost first. -/
def readFrom (grammar : Grammar α) (progress : Progress) :
    List String → Except Stop (α × List Given)
  | [] => grammar.finish progress
  | argument :: rest =>
    match grammar.descend? progress argument with
    | some command => do
      let (value, below) ← readFrom command {} rest
      let given := (← progress.settle.mapError .usage).given
      return (value, given :: below)
    | none => do
      let progress ← grammar.readArgument progress argument
      readFrom grammar progress rest

def read (grammar : Grammar α) (arguments : List String) : Except Stop (α × List Given) :=
  grammar.readFrom {} arguments

end Grammar

end CommandSynthesis.CommandLine
