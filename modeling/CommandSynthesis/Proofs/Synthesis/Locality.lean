import CommandSynthesis.Proofs.Synthesis.Resolution

set_option autoImplicit false

/-!
# Where a value counts

A segment becomes what the pieces of the names in it make of it, and what is wrong with an input
depends on its own value. So the value of a name counts for the segments that hold the name and for
the inputs that have it, and a template with other inputs gives the same command as long as each
name in its text stands for the same piece.
-/

namespace CommandSynthesis

/-- Gives a name another value, or none. -/
def Bindings.change (bindings : Bindings) (name : String) : Option String → Bindings
  | some value => bindings.insert name value
  | none => bindings.erase name

theorem Bindings.find?_change (bindings : Bindings) (name : String) (value : Option String)
    (other : String) :
    (bindings.change name value).find? other =
      if other = name then value else bindings.find? other := by
  cases value with
  | none => exact bindings.find?_erase name other
  | some value => exact bindings.find?_insert name value other

namespace Input

variable {input other : Input} {left right : Bindings}

theorem value_congr (same : right.find? input.name = left.find? input.name) :
    input.value right = input.value left := by
  rw [value, value, same]

theorem error?_congr (same : input.value right = input.value left) :
    input.error? right = input.error? left := by
  rw [error?, error?, same]

theorem piece_congr (same : input.value right = input.value left) :
    input.piece right = input.piece left := by
  rw [piece, piece, same]

theorem value_of_piece (same : other.piece right = input.piece left) :
    other.value right = input.value left := by
  unfold piece pieceOf at same
  split at same
  · split at same
    · exact (Piece.selected.inj same).2
    · cases same
  · split at same
    · cases same
    · exact (Piece.entered.inj same).2

end Input

namespace Template

/-- The piece that a name stands for, if an input has the name. -/
def boundPiece? (template : Template) (bindings : Bindings) (name : String) : Option Piece :=
  (template.boundInput? name).map (·.piece bindings)

/-- What a segment becomes in the command. -/
def segmentText (template : Template) (bindings : Bindings) (segment : Segment) : String :=
  Piece.command (template.segmentPieces bindings segment)

section Congruence

variable {template other : Template} {left right : Bindings}

theorem referencePiece_congr {name : String}
    (same : other.boundPiece? right name = template.boundPiece? left name) :
    other.referencePiece right name = template.referencePiece left name := by
  unfold boundPiece? at same
  unfold referencePiece
  cases found : template.boundInput? name with
  | none =>
    rw [found, Option.map_none, Option.map_eq_none_iff] at same
    rw [same]
  | some input =>
    rw [found, Option.map_some] at same
    obtain ⟨counterpart, bound, piece⟩ := Option.map_eq_some_iff.1 same
    rw [bound]
    exact piece

/-- A segment becomes the same when each name in it stands for the same piece. -/
theorem segmentPieces_congr {segment : Segment}
    (same : ∀ name ∈ segment.references,
      other.boundPiece? right name = template.boundPiece? left name) :
    other.segmentPieces right segment = template.segmentPieces left segment := by
  cases segment with
  | literal content => rfl
  | simple name =>
    have piece := referencePiece_congr (same name (List.mem_singleton_self name))
    rw [segmentPieces, segmentPieces, piece]
  | conditional cond =>
    have head := same cond.name List.mem_cons_self
    unfold boundPiece? at head
    cases found : template.boundInput? cond.name with
    | none =>
      rw [found, Option.map_none, Option.map_eq_none_iff] at head
      simp only [segmentPieces, found, head]
    | some input =>
      rw [found, Option.map_some] at head
      obtain ⟨counterpart, bound, piece⟩ := Option.map_eq_some_iff.1 head
      simp only [segmentPieces, found, bound, Input.value_of_piece piece]
      refine List.map_congr_left fun part member => ?_
      cases part with
      | text content => rfl
      | ref name => exact referencePiece_congr (same name (mem_references_of_select member))

variable (text : other.text = template.text)
  (same : ∀ name ∈ Segment.names template.segments,
    other.boundPiece? right name = template.boundPiece? left name)

include text same

theorem command_congr : other.command right = template.command left := by
  have segments : other.segments = template.segments := by rw [segments, segments, text]
  unfold command pieces
  rw [segments]
  refine congrArg Piece.command (List.flatMap_congr fun segment member => ?_)
  exact segmentPieces_congr fun name mentioned => same name (Segment.mem_names member mentioned)

theorem unresolvedNames_congr : other.unresolvedNames = template.unresolvedNames := by
  have segments : other.segments = template.segments := by rw [segments, segments, text]
  unfold unresolvedNames
  rw [segments]
  refine List.filter_congr fun name member => ?_
  have bound := congrArg Option.isNone (same name member)
  rwa [boundPiece?, boundPiece?, Option.isNone_map, Option.isNone_map] at bound

/-- What is made of a template depends on the pieces that the names in its text stand for and on
what is wrong with its inputs. -/
theorem synthesize_congr (id : other.id = template.id)
    (errors : other.inputErrors right = template.inputErrors left) (strict : Bool) (now : Instant) :
    other.synthesize right strict now = template.synthesize left strict now := by
  unfold synthesize Template.errors
  rw [command_congr text same, unresolvedNames_congr text same, errors, id]

end Congruence

variable {template : Template} {left right : Bindings}

theorem boundPiece?_congr {name : String}
    (same : ∀ input ∈ template.inputs, input.name = name → input.value right = input.value left) :
    template.boundPiece? right name = template.boundPiece? left name := by
  unfold boundPiece?
  cases found : template.boundInput? name with
  | none => rfl
  | some input =>
    have value := same input (mem_inputs_of_boundInput? found) (name_of_boundInput? found)
    exact congrArg some (Input.piece_congr value)

/-- What is made of a template is made of one value for each input: the value is validated, a
reference to the input stands for its piece, and a conditional on the input selects by it. -/
structure MadeOf (template : Template) (values : Input → String) (bindings : Bindings) : Prop where
  errors : ∀ strict now, (template.synthesize bindings strict now).errors =
    (template.inputs.filterMap fun input => input.errorOf? (values input)) ++
      if strict then template.unresolvedNames.map unresolvedError else []
  reference : ∀ name input, template.boundInput? name = some input →
    template.referencePiece bindings name = input.pieceOf (values input)
  selection : ∀ cond input, template.boundInput? cond.name = some input →
    template.segmentPieces bindings (.conditional cond) =
      (cond.select (values input)).map (template.partPiece bindings)
  command : ∀ strict now, (template.synthesize bindings strict now).command =
    Piece.command (template.pieces bindings)

/-- Errors and pieces are made of the values that the inputs have. -/
theorem madeOf_of_value_eq {values : Input → String} {bindings : Bindings}
    (same : ∀ input ∈ template.inputs, input.value bindings = values input) :
    template.MadeOf values bindings where
  errors strict now := by
    have own : template.inputErrors bindings =
        template.inputs.filterMap fun input => input.errorOf? (values input) :=
      List.filterMap_congr fun input member => by rw [Input.error?, same input member]
    rw [← own]
    rfl
  reference name input bound := by
    have value := same input (mem_inputs_of_boundInput? bound)
    simp only [referencePiece, bound, Input.piece, value]
  selection cond input bound := by
    have value := same input (mem_inputs_of_boundInput? bound)
    simp only [segmentPieces, bound, value]
  command _ _ := rfl

theorem command_eq_join (template : Template) (bindings : Bindings) :
    template.command bindings =
      String.join (template.segments.map (template.segmentText bindings)) := by
  apply String.toList_injective
  unfold command pieces segmentText Piece.command
  simp only [String.toList_join, List.flatMap_map, List.flatMap_assoc]

/-- Inputs none of which has the name. -/
def Spare (name : String) (inputs : List Input) : Prop :=
  ∀ input ∈ inputs, input.name ≠ name

/-- Where names are distinct, no input before or after the one of a name has the name. -/
theorem exists_split_inputs (distinct : (template.inputs.map Input.name).Nodup) (name : String) :
    ∃ front back, template.inputs = front ++ (template.findInput? name).toList ++ back ∧
      Spare name front ∧ Spare name back := by
  cases found : template.findInput? name with
  | none =>
    refine ⟨template.inputs, [], by simp, fun input member named => ?_, by simp [Spare]⟩
    have differs := List.find?_eq_none.1 found input member
    exact differs (beq_iff_eq.2 named)
  | some input =>
    obtain ⟨named, front, back, split, earlier⟩ := List.find?_eq_some_iff_append.1 found
    have named : input.name = name := beq_iff_eq.1 named
    refine ⟨front, back, by simp [split], fun first member same => ?_, fun later member same => ?_⟩
    · have differs := earlier first member
      simp [same] at differs
    · rw [split, List.map_append, List.map_cons] at distinct
      have absent := (List.nodup_cons.1 (List.nodup_append.1 distinct).2.1).1
      exact absent (List.mem_map.2 ⟨later, member, same.trans named.symm⟩)

section Change

variable (template) (bindings : Bindings) {name : String} (value : Option String)

theorem error?_change {input : Input} (other : input.name ≠ name) :
    input.error? (bindings.change name value) = input.error? bindings := by
  apply Input.error?_congr
  apply Input.value_congr
  rw [Bindings.find?_change, if_neg other]

theorem filterMap_error?_change {inputs : List Input} (spare : Spare name inputs) :
    inputs.filterMap (·.error? (bindings.change name value)) =
      inputs.filterMap (·.error? bindings) :=
  List.filterMap_congr fun input member => error?_change bindings value (spare input member)

theorem boundPiece?_change {other : String} (different : other ≠ name) :
    template.boundPiece? (bindings.change name value) other =
      template.boundPiece? bindings other := by
  apply boundPiece?_congr
  intro input _ named
  apply Input.value_congr
  rw [Bindings.find?_change, named, if_neg different]

/-- Where names are distinct, the inputs but the one of a name report what they reported, and that
one in its place among them. -/
theorem exists_split_errors (distinct : (template.inputs.map Input.name).Nodup) :
    ∃ front back, template.inputs = front ++ (template.findInput? name).toList ++ back ∧
      ∀ values ∈ [bindings, bindings.change name value],
        template.inputErrors values = front.filterMap (·.error? bindings) ++
          ((template.findInput? name).bind (·.error? values)).toList ++
            back.filterMap (·.error? bindings) := by
  obtain ⟨front, back, split, spareFront, spareBack⟩ := exists_split_inputs distinct name
  refine ⟨front, back, split, fun values either => ?_⟩
  have others : ∀ inputs, Spare name inputs →
      inputs.filterMap (·.error? values) = inputs.filterMap (·.error? bindings) := by
    intro inputs spare
    obtain rfl | rfl := List.mem_pair.1 either
    · rfl
    · exact filterMap_error?_change bindings value spare
  have own : (template.findInput? name).toList.filterMap (·.error? values) =
      ((template.findInput? name).bind (·.error? values)).toList := by
    cases template.findInput? name with
    | none => rfl
    | some input => cases reported : input.error? values <;> simp [reported]
  unfold inputErrors
  rw [split, List.filterMap_append, List.filterMap_append, own, others front spareFront,
    others back spareBack]

end Change

/-- Another value of one name changes the segments that hold the name, and what is wrong with the
input that has it, in its place. Nothing else changes: if no input has the name nothing does, and
the command depends only on the inputs whose names are in the text. -/
theorem synthesize_change (template : Template) (bindings : Bindings) (name : String)
    (value : Option String) :
    let changed := bindings.change name value
    (∀ segment ∈ template.segments, name ∉ segment.references →
        template.segmentText changed segment = template.segmentText bindings segment) ∧
      (∀ values, template.command values =
        String.join (template.segments.map (template.segmentText values))) ∧
      (∀ input ∈ template.inputs, input.name ≠ name →
        input.error? changed = input.error? bindings) ∧
      ((template.inputs.map Input.name).Nodup → ∃ front back,
        template.inputs = front ++ (template.findInput? name).toList ++ back ∧
          ∀ values ∈ [bindings, changed], ∀ strict, template.errors values strict =
            front.filterMap (·.error? bindings) ++
              ((template.findInput? name).bind (·.error? values)).toList ++
                back.filterMap (·.error? bindings) ++
                  if strict then template.unresolvedNames.map unresolvedError else []) ∧
      ((∀ input ∈ template.inputs, input.name ≠ name) → ∀ strict now,
        template.synthesize changed strict now = template.synthesize bindings strict now) ∧
      ∀ other, (∀ input ∈ template.inputs, input.name ∈ Segment.names template.segments →
          input.value other = input.value bindings) →
        ∀ strict now, (template.synthesize other strict now).command =
          (template.synthesize bindings strict now).command := by
  intro changed
  refine ⟨?_, template.command_eq_join, ?_, ?_, ?_, ?_⟩
  · intro segment _ absent
    refine congrArg Piece.command (segmentPieces_congr fun other mentioned => ?_)
    apply boundPiece?_change
    rintro rfl
    exact absent mentioned
  · intro input _ other
    exact error?_change bindings value other
  · intro distinct
    obtain ⟨front, back, split, errors⟩ := template.exists_split_errors bindings value distinct
    refine ⟨front, back, split, fun values either strict => ?_⟩
    rw [Template.errors, errors values either]
  · intro spare strict now
    refine synthesize_congr rfl (fun other _ => ?_) rfl ?_ strict now
    · apply boundPiece?_congr
      intro input member _
      apply Input.value_congr
      rw [Bindings.find?_change, if_neg (spare input member)]
    · exact filterMap_error?_change bindings value spare
  · intro other same strict now
    refine command_congr rfl fun name listed => boundPiece?_congr fun input member named => ?_
    exact same input member (named ▸ listed)

/-- An archive of a directory, packed as asked. -/
def archive : Template where
  id := "archive"
  name := "Archive"
  category := "files"
  inputs := [
    { name := "dir", label := "Directory", required := true },
    { name := "pack", label := "Pack", kind := .select, choices := ["zip", "none"] },
    { name := "level", label := "Level", defaultValue := some "6", validator := some (.numberRange 1 9) },
    { name := "note", label := "Note", required := true }]
  text := "tar \x7bdir\x7d \x7bpack|zip:-z\x7blevel\x7d \x7bextra\x7d|none:\x7d"

/-- A value that looks like a reference to another input stays where it is entered. -/
theorem synthesize_change_archive :
    let bindings : Bindings := ⟨[("pack", "zip")]⟩
    let changed := bindings.change "level" (some "\x7bdir\x7d")
    archive.segmentText changed (.simple "dir") = archive.segmentText bindings (.simple "dir") ∧
      (∃ front back, archive.inputs = front ++ (archive.findInput? "level").toList ++ back ∧
        ∀ values ∈ [bindings, changed], ∀ strict, archive.errors values strict =
          front.filterMap (·.error? bindings) ++
            ((archive.findInput? "level").bind (·.error? values)).toList ++
              back.filterMap (·.error? bindings) ++
                if strict then archive.unresolvedNames.map unresolvedError else []) ∧
      archive.command bindings = "tar '' -z'6' \x7bextra\x7d" ∧
      archive.command changed = "tar '' -z'\x7bdir\x7d' \x7bextra\x7d" ∧
      archive.errors bindings true =
        ["Directory is required", "Note is required", "Unresolved token \x7bextra\x7d"] ∧
      (archive.errors changed true).length = 4 ∧
      (archive.synthesize (changed.change "extra" (some "-v")) true .epoch).command =
        (archive.synthesize changed true .epoch).command := by
  intro bindings changed
  have level := archive.synthesize_change bindings "level" (some "\x7bdir\x7d")
  have extra := archive.synthesize_change changed "extra" (some "-v")
  refine ⟨level.1 _ (by decide +kernel) (by decide +kernel), level.2.2.2.1 (by decide +kernel),
    by decide +kernel, by decide +kernel, by decide +kernel, by decide +kernel, ?_⟩
  rw [extra.2.2.2.2.1 (by decide +kernel)]

end Template

end CommandSynthesis
