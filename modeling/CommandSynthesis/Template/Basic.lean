import CommandSynthesis.Synthesis.Bindings
import CommandSynthesis.Validator.Basic

set_option autoImplicit false

/-!
# Templates

A template is a command with places for values: its text is written in the language of segments,
and its inputs say what values it takes. Templates are data and never change.
-/

namespace CommandSynthesis

/-- How a value is entered. A selected value is inserted as it is, any other is quoted. -/
inductive InputKind where
  | text
  | textarea
  | select
  deriving DecidableEq, Repr, Inhabited

/-- How much harm a command can do, from little to much. -/
inductive DangerLevel where
  | safe
  | caution
  | dangerous
  deriving DecidableEq, Repr, Inhabited

structure Input where
  name : String
  label : String
  kind : InputKind := .text
  defaultValue : Option String := none
  required : Bool := false
  choices : List String := []
  validator : Option Validator := none
  placeholder : Option String := none
  helpText : Option String := none

structure Template where
  id : String
  name : String
  description : String := ""
  category : String
  dangerLevel : DangerLevel := .safe
  inputs : List Input := []
  text : String
  examples : List String := []
  notes : List String := []

namespace InputKind

def name : InputKind → String
  | text => "text"
  | textarea => "textarea"
  | select => "select"

end InputKind

namespace DangerLevel

def name : DangerLevel → String
  | safe => "safe"
  | caution => "caution"
  | dangerous => "dangerous"

/-- The rank of a level: more harm, higher rank. -/
def rank : DangerLevel → Nat
  | safe => 0
  | caution => 1
  | dangerous => 2

instance : Ord DangerLevel := ⟨fun a b => compare a.rank b.rank⟩

end DangerLevel

namespace Input

def isSelect (input : Input) : Bool :=
  input.kind = .select

/-- The value of an input: the one given, else the default, else the empty text. -/
def value (input : Input) (bindings : Bindings) : String :=
  match bindings.find? input.name with
  | some value => value
  | none => input.defaultValue.getD ""

end Input

namespace Template

def findInput? (template : Template) (name : String) : Option Input :=
  template.inputs.find? (·.name == name)

end Template

end CommandSynthesis
