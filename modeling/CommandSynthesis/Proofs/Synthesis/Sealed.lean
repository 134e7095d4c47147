import CommandSynthesis.Proofs.Segment.Length
import CommandSynthesis.Proofs.Shell.Place
import CommandSynthesis.Proofs.Synthesis.Opacity
import CommandSynthesis.Proofs.Text.Bytes
import CommandSynthesis.Synthesis.Basic

set_option autoImplicit false

/-!
# Sealed templates

Whether values can be injected into the commands of a template is decided by its text and the kinds
of its inputs. The text is followed with a hole for each reference and with every body of each
conditional. Where that finds each hole outside quotes and no quote open at the end, it is so for
all values.
-/

namespace CommandSynthesis

open Shell (Glyph Place Reading)

def Conditional.bodies (cond : Conditional) : List (List Part) :=
  cond.fallback.getD [] :: cond.branches.map (·.body)

theorem Conditional.select_mem_bodies (cond : Conditional) (value : String) :
    cond.select value ∈ cond.bodies := by
  rcases cond.select_mem value with same | ⟨branch, member, same⟩
  · rw [same]
    exact List.mem_cons_self
  · rw [same]
    exact List.mem_cons_of_mem _ (List.mem_map_of_mem member)

namespace Part

/-- What is written for a part, with a hole for a reference. -/
def glyphs : Part → List Glyph
  | .text content => content.toList.map .char
  | .ref name => [.hole name]

/-- The same, in a form that is quick to evaluate. -/
def spelled : Part → List Glyph
  | .text content => (Text.characters content).map .char
  | .ref name => [.hole name]

theorem spelled_eq_glyphs : spelled = glyphs := by
  funext part
  cases part with
  | text content => rw [spelled, glyphs, Text.characters_eq_toList]
  | ref name => rfl

end Part

theorem Piece.command_append_cons (before : List Piece) (piece : Piece) (after : List Piece) :
    command (before ++ piece :: after) = command before ++ (piece.text ++ command after) := by
  apply String.toList_injective
  simp [command, String.toList_join]

namespace Segment

/-- The parts of a segment when each conditional selects the given body. -/
def parts (choose : Conditional → List Part) : Segment → List Part
  | .literal content => [.text content]
  | .simple name => [.ref name]
  | .conditional cond => choose cond

def bodies : Segment → List (List Part)
  | .literal content => [[.text content]]
  | .simple name => [[.ref name]]
  | .conditional cond => cond.bodies

def spellings (segment : Segment) : List (List Glyph) :=
  segment.bodies.map (·.flatMap Part.spelled)

/-- Whether every hole is plain and no quote is open at the end, from all of the places and whatever
the conditionals select. -/
def admitted (places : List Place) : List Segment → Bool
  | [] => places.all (! ·.isQuoted)
  | segment :: segments =>
    places.all (fun place => segment.spellings.all place.admits) &&
      admitted (Place.reach places segment.spellings) segments

variable {choose : Conditional → List Part} (possible : ∀ cond, choose cond ∈ cond.bodies)

include possible

theorem parts_mem_bodies (segment : Segment) : segment.parts choose ∈ segment.bodies := by
  cases segment with
  | literal content => exact List.mem_cons_self
  | simple name => exact List.mem_cons_self
  | conditional cond => exact possible cond

theorem glyphs_mem_spellings (segment : Segment) :
    (segment.parts choose).flatMap Part.glyphs ∈ segment.spellings := by
  rw [spellings, Part.spelled_eq_glyphs]
  exact List.mem_map_of_mem (parts_mem_bodies possible segment)

/-- By induction on the segments: the place at hand is among those that were followed. -/
theorem plain_of_admitted {places : List Place} {segments : List Segment}
    (checked : admitted places segments = true) {reading : Reading Glyph}
    (here : reading.place ∈ places) :
    reading.HolesPlain ((segments.flatMap (·.parts choose)).flatMap Part.glyphs) ∧
      (reading.runGlyphs
        ((segments.flatMap (·.parts choose)).flatMap Part.glyphs)).place.isQuoted = false := by
  induction segments generalizing places reading with
  | nil =>
    refine ⟨Reading.holesPlain_iff.1 rfl, ?_⟩
    have closed := List.all_eq_true.1 checked reading.place here
    simpa using closed
  | cons segment segments ih =>
    rw [admitted, Bool.and_eq_true] at checked
    obtain ⟨now, later⟩ := checked
    have written := glyphs_mem_spellings possible segment
    have plain : reading.HolesPlain ((segment.parts choose).flatMap Part.glyphs) :=
      Reading.holesPlain_of_admits
        (List.all_eq_true.1 (List.all_eq_true.1 now reading.place here) _ written)
    have next : (reading.runGlyphs ((segment.parts choose).flatMap Part.glyphs)).place ∈
        Place.reach places segment.spellings := by
      rw [Reading.place_runGlyphs]
      exact Place.after_mem_reach here written
    obtain ⟨rest, closed⟩ := ih later next
    rw [List.flatMap_cons, List.flatMap_append, Reading.runGlyphs_append]
    exact ⟨Reading.holesPlain_append_iff.2 ⟨plain, rest⟩, closed⟩

end Segment

namespace Template

/-- Whether the value of a name is quoted: it is that of an input, and not selected. -/
def isEntered (template : Template) (name : String) : Bool :=
  (template.boundInput? name).any (! ·.isSelect)

def entersPart (template : Template) : Part → Bool
  | .text _ => true
  | .ref name => template.isEntered name

def bindsHead (template : Template) : Segment → Bool
  | .conditional cond => (template.boundInput? cond.name).isSome
  | _ => true

def entersSegment (template : Template) (segment : Segment) : Bool :=
  template.bindsHead segment && segment.bodies.all (·.all template.entersPart)

/-- Whether no value can reach the shell but as letters of a word. -/
def isSealed (template : Template) : Bool :=
  let segments := readSegments "" (Text.characters template.text)
  segments.all template.entersSegment && Segment.admitted [.between] segments

/-- The body that values select of a conditional. -/
def chosen (template : Template) (bindings : Bindings) (cond : Conditional) : List Part :=
  match template.boundInput? cond.name with
  | some input => cond.select (input.value bindings)
  | none => cond.fallback.getD []

/-- The text of a template with a body in the place of each conditional and a hole in that of each
reference. -/
def skeleton (template : Template) (choose : Conditional → List Part) : List Glyph :=
  (template.segments.flatMap (·.parts choose)).flatMap Part.glyphs

variable {template : Template}

theorem isSealed_iff : template.isSealed = true ↔
    (∀ segment ∈ template.segments, template.entersSegment segment = true) ∧
      Segment.admitted [.between] template.segments = true := by
  rw [isSealed, Text.characters_eq_toList, Bool.and_eq_true, List.all_eq_true]
  rfl

theorem chosen_mem_bodies (bindings : Bindings) (cond : Conditional) :
    template.chosen bindings cond ∈ cond.bodies := by
  unfold chosen
  cases template.boundInput? cond.name with
  | none => exact List.mem_cons_self
  | some input => exact cond.select_mem_bodies _

theorem referencePiece_of_isEntered {name : String} (entered : template.isEntered name = true) :
    ∃ input ∈ template.inputs, input.isSelect = false ∧
      ∀ bindings, template.referencePiece bindings name =
        .entered name (input.value bindings) := by
  obtain ⟨input, bound, quoted⟩ := (Option.any_eq_true _ _).1 entered
  have quoted : input.isSelect = false := by simpa using quoted
  refine ⟨input, mem_inputs_of_boundInput? bound, quoted, fun bindings => ?_⟩
  simp [referencePiece, bound, Input.piece, Input.pieceOf, quoted, name_of_boundInput? bound]

theorem glyphs_partPiece {part : Part} (entered : template.entersPart part = true)
    (bindings : Bindings) : (template.partPiece bindings part).glyphs = part.glyphs := by
  cases part with
  | text content => rfl
  | ref name =>
    obtain ⟨input, -, -, piece⟩ := referencePiece_of_isEntered entered
    rw [partPiece, piece]
    rfl

theorem not_selected_partPiece {part : Part} (entered : template.entersPart part = true)
    (bindings : Bindings) (name value : String) :
    template.partPiece bindings part ≠ .selected name value := by
  cases part with
  | text content => nofun
  | ref reference =>
    obtain ⟨input, -, -, piece⟩ := referencePiece_of_isEntered entered
    rw [partPiece, piece]
    nofun

theorem partPiece_congr {left right : Bindings}
    (same : ∀ input ∈ template.inputs, input.isSelect = false →
      input.value left = input.value right) {part : Part}
    (entered : template.entersPart part = true) :
    template.partPiece left part = template.partPiece right part := by
  cases part with
  | text content => rfl
  | ref name =>
    obtain ⟨input, member, quoted, piece⟩ := referencePiece_of_isEntered entered
    rw [partPiece, partPiece, piece, piece, same input member quoted]

theorem segmentPieces_of_bindsHead {segment : Segment} (bound : template.bindsHead segment = true)
    (bindings : Bindings) :
    template.segmentPieces bindings segment =
      (segment.parts (template.chosen bindings)).map (template.partPiece bindings) := by
  cases segment with
  | literal content => rfl
  | simple name => rfl
  | conditional cond =>
    obtain ⟨input, found⟩ := Option.isSome_iff_exists.1 bound
    simp only [segmentPieces, Segment.parts, chosen, found]

theorem isPlain_before_entered {bindings : Bindings}
    (plain : Reading.start.HolesPlain (template.glyphs bindings)) {before after : List Piece}
    {name value : String}
    (split : template.pieces bindings = before ++ .entered name value :: after) :
    (Shell.placeAfter (Piece.command before).toList).isPlain = true := by
  rw [glyphs, split, List.flatMap_append] at plain
  have earlier := (Reading.holesPlain_append_iff.1 plain).1
  have known : ∀ piece ∈ before, piece ∈ template.pieces bindings := by
    intro piece member
    rw [split]
    exact List.mem_append_left _ member
  rw [← reveal_pieces known, Shell.placeAfter_reveal _ earlier]
  exact plain _ name _ rfl

section Sealed

variable (tight : template.isSealed = true) (bindings : Bindings)

include tight

theorem pieces_of_isSealed :
    template.pieces bindings =
      (template.segments.flatMap (·.parts (template.chosen bindings))).map
        (template.partPiece bindings) := by
  rw [List.map_flatMap]
  refine List.flatMap_congr fun segment member => ?_
  have entered := (isSealed_iff.1 tight).1 segment member
  rw [entersSegment, Bool.and_eq_true] at entered
  exact segmentPieces_of_bindsHead entered.1 bindings

theorem entersPart_of_isSealed {part : Part}
    (member : part ∈ template.segments.flatMap (·.parts (template.chosen bindings))) :
    template.entersPart part = true := by
  obtain ⟨segment, known, member⟩ := List.mem_flatMap.1 member
  have entered := (isSealed_iff.1 tight).1 segment known
  rw [entersSegment, Bool.and_eq_true] at entered
  have possible : segment.parts (template.chosen bindings) ∈ segment.bodies :=
    Segment.parts_mem_bodies (chosen_mem_bodies bindings) segment
  exact List.all_eq_true.1 (List.all_eq_true.1 entered.2 _ possible) part member

theorem glyphs_eq_skeleton :
    template.glyphs bindings = template.skeleton (template.chosen bindings) := by
  unfold glyphs skeleton
  rw [pieces_of_isSealed tight, List.flatMap_map]
  exact List.flatMap_congr fun _ member =>
    glyphs_partPiece (entersPart_of_isSealed tight bindings member) bindings

theorem plain_of_isSealed :
    Reading.start.HolesPlain (template.glyphs bindings) ∧
      (Reading.start.runGlyphs (template.glyphs bindings)).place.isQuoted = false := by
  rw [glyphs_eq_skeleton tight]
  exact Segment.plain_of_admitted (chosen_mem_bodies bindings) (isSealed_iff.1 tight).2
    List.mem_cons_self

theorem isQuoted_after_command :
    (Shell.placeAfter (template.command bindings).toList).isQuoted = false := by
  obtain ⟨plain, closed⟩ := plain_of_isSealed tight bindings
  rw [← template.reveal_glyphs bindings, Shell.placeAfter_reveal _ plain]
  exact closed

/-- The words of a command are those of the text with the selected bodies, where each hole is filled
with the raw value. -/
theorem words?_of_isSealed :
    ∃ words, Glyph.words? (template.skeleton (template.chosen bindings)) = some words ∧
      Shell.words? (template.command bindings).toList =
        some (Glyph.fillWords (template.rawValue bindings) words) := by
  obtain ⟨plain, closed⟩ := plain_of_isSealed tight bindings
  obtain ⟨words, read⟩ := (Reading.exists_words?_iff .char _).2 closed
  have read : Glyph.words? (template.glyphs bindings) = some words := read
  refine ⟨words, ?_, ?_⟩
  · rw [← glyphs_eq_skeleton tight, read]
  · rw [← template.reveal_glyphs bindings, Shell.words?_reveal _ plain, read]
    rfl

theorem not_selected_of_isSealed (name value : String) :
    .selected name value ∉ template.pieces bindings := by
  intro member
  rw [pieces_of_isSealed tight] at member
  obtain ⟨part, known, piece⟩ := List.mem_map.1 member
  exact not_selected_partPiece (entersPart_of_isSealed tight bindings known) bindings name value
    piece

/-- A selected value counts only for the bodies that it selects. -/
theorem pieces_congr {other : Bindings}
    (same : ∀ input ∈ template.inputs, input.isSelect = false →
      input.value other = input.value bindings)
    (choice : ∀ cond, .conditional cond ∈ template.segments →
      template.chosen other cond = template.chosen bindings cond) :
    template.pieces other = template.pieces bindings := by
  have parts : template.segments.flatMap (·.parts (template.chosen other)) =
      template.segments.flatMap (·.parts (template.chosen bindings)) := by
    refine List.flatMap_congr fun segment member => ?_
    cases segment with
    | literal content => rfl
    | simple name => rfl
    | conditional cond => exact choice cond member
  rw [pieces_of_isSealed tight, pieces_of_isSealed tight, parts]
  exact List.map_congr_left fun _ member =>
    partPiece_congr same (entersPart_of_isSealed tight bindings member)

end Sealed

end Template

end CommandSynthesis
