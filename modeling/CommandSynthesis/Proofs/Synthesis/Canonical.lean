import CommandSynthesis.Proofs.Segment.Canonical
import CommandSynthesis.Proofs.Synthesis.Locality
import CommandSynthesis.Proofs.Synthesis.Opacity

set_option autoImplicit false

/-!
# Templates in canonical form

A template whose text is in canonical form has the references, the heads and the branches that it
had. What it made of its values it still makes of them, unless a conditional stood in the command as
it was written because no input has its name.
-/

namespace CommandSynthesis

namespace Segment

theorem references_canonical (segment : Segment) :
    segment.canonical.references = segment.references := by
  cases segment <;> rfl

theorem print_canonical (segment : Segment) : segment.canonical.print = segment.print := by
  cases segment <;> rfl

theorem names_canonical (segments : List Segment) :
    names (segments.map canonical) = names segments := by
  unfold names
  rw [List.flatMap_map]
  exact congrArg List.eraseDups (List.flatMap_congr fun segment _ => segment.references_canonical)

theorem printAll_canonical (segments : List Segment) :
    printAll (segments.map canonical) = printAll segments := by
  unfold printAll
  rw [List.map_map]
  exact congrArg String.join (List.map_congr_left fun segment _ => segment.print_canonical)

end Segment

namespace Template

/-- The same template with its text in canonical form. -/
def canonical (template : Template) : Template :=
  { template with text := Segment.printAll template.segments }

variable {template : Template}

theorem segments_canonical : template.canonical.segments = template.segments.map .canonical :=
  Segment.read_printAll_read template.text

/-- A segment becomes the same in canonical form, if the name it depends on is that of an input. -/
theorem segmentPieces_canonical {segment : Segment}
    (bound : ∀ cond, segment = .conditional cond → template.boundInput? cond.name ≠ none)
    (bindings : Bindings) :
    template.segmentPieces bindings segment.canonical = template.segmentPieces bindings segment := by
  cases segment with
  | literal content => rfl
  | simple name => rfl
  | conditional cond =>
    obtain ⟨input, found⟩ := Option.ne_none_iff_exists'.1 (bound cond rfl)
    have same : template.boundInput? cond.canonical.name = some input := found
    simp only [Segment.canonical, segmentPieces, found, same]
    rfl

theorem command_canonical
    (bound : ∀ head ∈ template.heads, ∃ input ∈ template.inputs, input.name = head)
    (bindings : Bindings) : template.canonical.command bindings = template.command bindings := by
  have pieces : template.canonical.pieces bindings = template.pieces bindings := by
    unfold pieces
    rw [segments_canonical, List.flatMap_map]
    refine List.flatMap_congr fun segment member => segmentPieces_canonical ?_ bindings
    -- A conditional on a name without input would stand as it was written, and not in this form.
    rintro cond rfl unbound
    obtain ⟨input, listed, named⟩ := bound cond.name (mem_heads member)
    exact boundInput?_eq_none_iff.1 unbound input listed named
  exact congrArg Piece.command pieces

theorem errors_canonical (bindings : Bindings) (strict : Bool) :
    template.canonical.errors bindings strict = template.errors bindings strict := by
  have unresolved : template.canonical.unresolvedNames = template.unresolvedNames := by
    unfold unresolvedNames
    rw [segments_canonical, Segment.names_canonical]
    rfl
  unfold errors
  rw [unresolved]
  rfl

end Template

/-- Reading the canonical form of a text gives the segments of the text, up to the texts that
conditionals were read from. -/
theorem Segment.read_printAll (source : String) :
    read (printAll (read source)) = (read source).map canonical ∧
      printAll (read (printAll (read source))) = printAll (read source) ∧
      ∀ template : Template, template.text = source →
        (∀ head ∈ template.heads, ∃ input ∈ template.inputs, input.name = head) →
        ∀ bindings strict now,
          template.canonical.synthesize bindings strict now =
            template.synthesize bindings strict now := by
  refine ⟨read_printAll_read source, ?_, ?_⟩
  · rw [read_printAll_read, printAll_canonical]
  · intro template _ bound bindings strict now
    unfold Template.synthesize
    rw [Template.command_canonical bound, Template.errors_canonical]
    rfl

/-- A template whose conditional has a bare branch before its cases, another after them and an
unfinished conditional before it. -/
def Template.rotate : Template where
  id := "rotate"
  name := "Rotate"
  category := "files"
  inputs := [
    { name := "mode", label := "Mode", kind := .select, choices := ["gz", "xz", "none"] },
    { name := "file", label := "File" }]
  text := "\x7bz|a \x7bmode|plain|gz:gzip -\x7b9\x7d \x7bfile\x7d|gz:lost|\x7bmode\x7d \x7bfile\x7d|xz:x:z\x7d \x7bfile\x7d"

theorem Segment.read_printAll_rotate :
    printAll Template.rotate.segments =
        "\x7bz|a \x7bmode|gz:gzip -\x7b9\x7d \x7bfile\x7d|gz:lost|xz:x:z|\x7bmode\x7d \x7bfile\x7d\x7d \x7bfile\x7d" ∧
      read (printAll Template.rotate.segments) = Template.rotate.segments.map canonical ∧
      read (printAll Template.rotate.segments) ≠ Template.rotate.segments ∧
      Template.rotate.command ⟨[("mode", "none"), ("file", "a b")]⟩ = "\x7bz|a none 'a b' 'a b'" ∧
      ∀ bindings strict now, Template.rotate.canonical.synthesize bindings strict now =
        Template.rotate.synthesize bindings strict now := by
  have stable := Segment.read_printAll Template.rotate.text
  have printed : printAll Template.rotate.segments =
      "\x7bz|a \x7bmode|gz:gzip -\x7b9\x7d \x7bfile\x7d|gz:lost|xz:x:z|\x7bmode\x7d \x7bfile\x7d\x7d \x7bfile\x7d" := by
    decide +kernel
  have differs : Template.rotate.segments.map canonical ≠ Template.rotate.segments := by
    decide +kernel
  have bound : ∀ head ∈ Template.rotate.heads,
      ∃ input ∈ Template.rotate.inputs, input.name = head := by
    decide +kernel
  refine ⟨printed, stable.1, fun same => differs (stable.1.symm.trans same), by decide +kernel, ?_⟩
  exact stable.2.2 Template.rotate rfl bound

end CommandSynthesis
