import CommandSynthesis.Proofs.Segment.NormalForm
import CommandSynthesis.Proofs.Synthesis.Resolution

set_option autoImplicit false

/-!
# Text without inputs

A segment whose own name no input has stands in the command as it stands in the template: a
reference with its braces, a conditional with all of its text, whatever the names in its branches
stand for. A template of which this holds throughout is its own command.
-/

namespace CommandSynthesis

/-- The name that decides what a segment becomes; a literal has none. -/
def Segment.head? : Segment → Option String
  | .literal _ => none
  | .simple name => some name
  | .conditional cond => some cond.name

theorem Segment.head_mem_references {segment : Segment} {name : String}
    (head : segment.head? = some name) : name ∈ segment.references := by
  cases segment with
  | literal content => cases head
  | simple other =>
    cases head
    exact List.mem_singleton_self name
  | conditional cond =>
    cases head
    exact List.mem_cons_self

namespace Template

variable {template : Template}

/-- No input has the name that decides what the segment becomes. -/
def LeavesAlone (template : Template) (segment : Segment) : Prop :=
  ∀ name, segment.head? = some name → template.boundInput? name = none

theorem referencePiece_of_unbound {name : String} (unbound : template.boundInput? name = none)
    (bindings : Bindings) :
    template.referencePiece bindings name = .author (referenceText name) := by
  unfold referencePiece
  rw [unbound]

/-- A segment that is left alone becomes the text that it was read from. -/
theorem segmentPieces_of_leavesAlone {segment : Segment} (alone : template.LeavesAlone segment)
    (bindings : Bindings) :
    template.segmentPieces bindings segment = [.author segment.source] := by
  cases segment with
  | literal content => rfl
  | simple name =>
    have unbound : template.boundInput? name = none := alone name rfl
    rw [segmentPieces, referencePiece_of_unbound unbound]
    rfl
  | conditional cond =>
    have unbound : template.boundInput? cond.name = none := alone cond.name rfl
    simp only [segmentPieces, unbound]
    rfl

/-- Segments that are all left alone become the text that they were read from. -/
theorem command_of_leavesAlone {segments : List Segment}
    (alone : ∀ segment ∈ segments, template.LeavesAlone segment) (bindings : Bindings) :
    Piece.command (segments.flatMap (template.segmentPieces bindings)) =
      Segment.sourceAll segments := by
  apply String.toList_injective
  induction segments with
  | nil => rfl
  | cons segment segments ih =>
    obtain ⟨first, others⟩ := List.forall_mem_cons.1 alone
    have later := ih others
    rw [List.flatMap_cons, segmentPieces_of_leavesAlone first, Segment.toList_sourceAll_cons,
      ← later]
    simp [Piece.command, Piece.text, String.toList_join]

theorem leavesAlone_of_unlisted
    (unlisted : ∀ input ∈ template.inputs, input.name ∉ Segment.names template.segments) :
    ∀ segment ∈ template.segments, template.LeavesAlone segment := by
  intro segment member name head
  apply boundInput?_eq_none_iff.2
  intro input known named
  have mentioned := Segment.head_mem_references head
  exact unlisted input known (named ▸ Segment.mem_names member mentioned)

/-- A template that refers to none of its inputs is its own command, whatever values there are. -/
theorem command_synthesize_of_unlisted
    (unlisted : ∀ input ∈ template.inputs, input.name ∉ Segment.names template.segments)
    (bindings : Bindings) (strict : Bool) (now : Instant) :
    (template.synthesize bindings strict now).command = template.text := by
  have alone := leavesAlone_of_unlisted unlisted
  calc (template.synthesize bindings strict now).command
      = Piece.command (template.segments.flatMap (template.segmentPieces bindings)) := rfl
    _ = Segment.sourceAll template.segments := command_of_leavesAlone alone bindings
    _ = template.text := Segment.sourceAll_of_read template.text

/-- Braces that are no tokens, a conditional one of whose clauses is overridden, one without end,
and an input that nothing refers to. -/
def stray : Template where
  id := "stray"
  name := "Stray"
  category := "text"
  inputs := [{ name := "file", label := "File" }]
  text := "awk '\x7bprint $1\x7d' \x7b\x7ba\x7d \x7bb|v:\x7bc\x7d|\x7bd\x7d|\x7be\x7d\x7d \x7bf|\x7bg\x7d"

theorem command_synthesize_stray :
    (∀ input ∈ stray.inputs, input.name ∉ Segment.names stray.segments) ∧
      (stray.synthesize ⟨[("file", "/tmp"), ("a", "x"), ("b", "v")]⟩ true .epoch).command =
        stray.text := by
  have unlisted : ∀ input ∈ stray.inputs, input.name ∉ Segment.names stray.segments := by
    decide +kernel
  exact ⟨unlisted, command_synthesize_of_unlisted unlisted _ _ _⟩

end Template

end CommandSynthesis
