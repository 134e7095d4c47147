import CommandSynthesis.Segment.Basic

set_option autoImplicit false

/-!
# Names a template refers to

The names are listed segment by segment, a conditional giving its own name, then those in its
branches, then those in its fallback. Each name is listed once, where it comes first.
-/

namespace CommandSynthesis

/-- The names a body refers to, in order. -/
def Part.references (parts : List Part) : List String :=
  parts.filterMap fun
    | .text _ => none
    | .ref name => some name

/-- The names a segment refers to, in order and with repetitions. -/
def Segment.references : Segment → List String
  | .literal _ => []
  | .simple name => [name]
  | .conditional cond =>
    cond.name :: (cond.branches.flatMap fun branch => Part.references branch.body)
      ++ Part.references (cond.fallback.getD [])

/-- The distinct names that segments refer to, in order of first appearance. -/
def Segment.names (segments : List Segment) : List String :=
  (segments.flatMap Segment.references).eraseDups

theorem Segment.mem_names {segments : List Segment} {segment : Segment} {name : String}
    (member : segment ∈ segments) (mentioned : name ∈ segment.references) :
    name ∈ names segments :=
  List.mem_eraseDups.2 (List.mem_flatMap.2 ⟨segment, member, mentioned⟩)

end CommandSynthesis
