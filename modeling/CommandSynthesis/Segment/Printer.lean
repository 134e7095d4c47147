import CommandSynthesis.Segment.Basic

set_option autoImplicit false

/-!
# Canonical text of segments

The text written for a conditional from its branches and fallback, instead of the text it was read
from.
-/

namespace CommandSynthesis

def Part.print : Part → String
  | .text content => content
  | .ref name => referenceText name

def Part.printAll (parts : List Part) : String :=
  String.join (parts.map Part.print)

/-- The text of a conditional: its name, each branch after its value and a colon, then the
fallback. -/
def Conditional.print (cond : Conditional) : String :=
  let branches := cond.branches.map fun branch =>
    "|" ++ branch.value ++ ":" ++ Part.printAll branch.body
  let fallback := cond.fallback.map fun body => "|" ++ Part.printAll body
  "\x7b" ++ cond.name ++ String.join branches ++ fallback.getD "" ++ "\x7d"

def Segment.print : Segment → String
  | .literal content => content
  | .simple name => referenceText name
  | .conditional cond => cond.print

def Segment.printAll (segments : List Segment) : String :=
  String.join (segments.map Segment.print)

end CommandSynthesis
