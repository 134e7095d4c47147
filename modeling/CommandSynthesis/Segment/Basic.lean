set_option autoImplicit false

/-!
# Segments of a template

A template text is a sequence of segments: literal text, simple references `{name}`, and
conditionals `{name|value:body|…|body}` whose chosen body depends on a value. This module holds the
types, the choice a conditional makes and the source text of a segment.
-/

namespace CommandSynthesis

/-- A piece of the body of a branch. -/
inductive Part where
  | text (text : String)
  | ref (name : String)
  deriving DecidableEq, Repr

/-- A branch of a conditional and the value that selects it. -/
structure Branch where
  value : String
  body : List Part
  deriving DecidableEq, Repr

/-- A conditional. The fallback is the body used when no branch has the value at hand; `raw` is the
text the conditional was read from. -/
structure Conditional where
  name : String
  branches : List Branch
  fallback : Option (List Part)
  raw : String
  deriving DecidableEq, Repr

inductive Segment where
  | literal (text : String)
  | simple (name : String)
  | conditional (cond : Conditional)
  deriving DecidableEq, Repr

/-- The body of the first branch with the given value, else the fallback, else nothing. -/
def Conditional.select (cond : Conditional) (value : String) : List Part :=
  match cond.branches.find? (·.value == value) with
  | some branch => branch.body
  | none => cond.fallback.getD []

/-- The text of a reference to a name. -/
def referenceText (name : String) : String :=
  "\x7b" ++ name ++ "\x7d"

/-- The text a segment was read from. -/
def Segment.source : Segment → String
  | .literal content => content
  | .simple name => referenceText name
  | .conditional cond => cond.raw

def Segment.conditionals (segments : List Segment) : List Conditional :=
  segments.filterMap fun
    | .conditional cond => some cond
    | _ => none

theorem Segment.mem_conditionals {segments : List Segment} {cond : Conditional}
    (member : .conditional cond ∈ segments) : cond ∈ conditionals segments :=
  List.mem_filterMap.2 ⟨_, member, rfl⟩

end CommandSynthesis
