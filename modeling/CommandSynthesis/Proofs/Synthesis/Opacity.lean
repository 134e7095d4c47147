import CommandSynthesis.Proofs.Shell.Glyph
import CommandSynthesis.Synthesis.Piece
import Mathlib.Data.List.Basic

set_option autoImplicit false

/-!
# Entered values are opaque to the shell

The pieces of a command are read with every entered value as a hole. Where each hole is met outside
quotes, the words of the command are the words with the holes filled by the raw values, so that an
entered value can neither add a word nor change another one.
-/

namespace CommandSynthesis

open Shell (Glyph)

/-- What the shell reads of a piece before the entered values are known. -/
def Piece.glyphs : Piece → List Glyph
  | author text => text.toList.map .char
  | selected _ value => value.toList.map .char
  | entered name _ => [.hole name]

def Shell.wordAt? {Letter : Type} (words : Option (List (List Letter))) (position : Nat) :
    Option (List Letter) :=
  words.bind (·[position]?)

/-- Two commands have the same number of words, or none, and the same words in all places where
the command with holes has a word without a hole. -/
def Shell.AgreeOutsideHoles (holed : Option (List (List Glyph)))
    (left right : Option (List (List Char))) : Prop :=
  left.map List.length = right.map List.length ∧
    ∀ position word, wordAt? holed position = some word → (∀ name, Glyph.hole name ∉ word) →
      wordAt? left position = wordAt? right position

namespace Template

/-- The command for some values, with a hole for each entered value. -/
def glyphs (template : Template) (bindings : Bindings) : List Glyph :=
  (template.pieces bindings).flatMap Piece.glyphs

/-- The value of the input that a name stands for. -/
def rawValue (template : Template) (bindings : Bindings) (name : String) : List Char :=
  match template.boundInput? name with
  | some input => (input.value bindings).toList
  | none => []

/-- The names that conditionals depend on. -/
def heads (template : Template) : List String :=
  (Segment.conditionals template.segments).map (·.name)

theorem mem_heads {template : Template} {cond : Conditional}
    (member : .conditional cond ∈ template.segments) : cond.name ∈ template.heads :=
  List.mem_map_of_mem (Segment.mem_conditionals member)

/-- Both bindings give the same value to every select input and every input that a conditional
depends on. -/
def SameSelection (template : Template) (left right : Bindings) : Prop :=
  ∀ input ∈ template.inputs, input.isSelect = true ∨ input.name ∈ template.heads →
    input.value left = input.value right

instance (template : Template) (left right : Bindings) :
    Decidable (template.SameSelection left right) :=
  inferInstanceAs (Decidable (∀ input ∈ template.inputs, _ → _))

end Template

namespace Piece

theorem reveal_characters (texts : String → List Char) (text : List Char) :
    (text.map Glyph.char).flatMap (Glyph.reveal texts) = text := by
  induction text with
  | nil => rfl
  | cons c text ih => rw [List.map_cons, List.flatMap_cons, ih]; rfl

/-- A piece is what its glyphs reveal, when its hole stands for its value. -/
theorem reveal_glyphs {texts : String → List Char} {piece : Piece}
    (known : ∀ name value, piece = .entered name value → texts name = value.toList) :
    piece.glyphs.flatMap (Glyph.reveal texts) = piece.text.toList := by
  cases piece with
  | author text => exact reveal_characters texts _
  | selected name value => exact reveal_characters texts _
  | entered name value =>
    simp [glyphs, Glyph.reveal, known name value rfl, text, Shell.quoteString]

end Piece

namespace Template

theorem rawValue_of_referencePiece {template : Template} {bindings : Bindings}
    {reference name value : String}
    (piece : template.referencePiece bindings reference = .entered name value) :
    template.rawValue bindings name = value.toList := by
  unfold referencePiece at piece
  cases bound : template.boundInput? reference with
  | none => simp [bound] at piece
  | some input =>
    simp only [bound, Input.piece, Input.pieceOf] at piece
    split at piece
    · cases piece
    · cases piece
      rw [rawValue, name_of_boundInput? bound, bound]

theorem rawValue_of_mem_pieces {template : Template} {bindings : Bindings} {name value : String}
    (member : .entered name value ∈ template.pieces bindings) :
    template.rawValue bindings name = value.toList := by
  obtain ⟨segment, _, member⟩ := List.mem_flatMap.1 member
  cases segment with
  | literal text => simp [segmentPieces] at member
  | simple reference =>
    exact rawValue_of_referencePiece (List.mem_singleton.1 member).symm
  | conditional cond =>
    unfold segmentPieces at member
    cases bound : template.boundInput? cond.name with
    | none => simp [bound] at member
    | some input =>
      simp only [bound, List.mem_map] at member
      obtain ⟨part, _, piece⟩ := member
      cases part with
      | text text => cases piece
      | ref reference => exact rawValue_of_referencePiece piece

/-- What is written of a command is what its glyphs reveal when the holes stand for the raw
values. -/
theorem reveal_pieces {template : Template} {bindings : Bindings} {written : List Piece}
    (known : ∀ piece ∈ written, piece ∈ template.pieces bindings) :
    (written.flatMap Piece.glyphs).flatMap (Glyph.reveal (template.rawValue bindings)) =
      (Piece.command written).toList := by
  unfold Piece.command
  rw [String.toList_join, List.flatMap_map, List.flatMap_assoc]
  refine List.flatMap_congr fun piece member => ?_
  refine Piece.reveal_glyphs fun name value same => ?_
  exact rawValue_of_mem_pieces (same ▸ known piece member)

theorem reveal_glyphs (template : Template) (bindings : Bindings) :
    (template.glyphs bindings).flatMap (Glyph.reveal (template.rawValue bindings)) =
      (template.command bindings).toList :=
  reveal_pieces fun _ member => member

theorem glyphs_referencePiece {template : Template} {left right : Bindings}
    (same : template.SameSelection left right) (name : String) :
    (template.referencePiece left name).glyphs = (template.referencePiece right name).glyphs := by
  unfold referencePiece
  cases bound : template.boundInput? name with
  | none => rfl
  | some input =>
    cases select : input.isSelect with
    | false => simp [Input.piece, Input.pieceOf, select, Piece.glyphs]
    | true =>
      have value := same input (mem_inputs_of_boundInput? bound) (.inl select)
      simp [Input.piece, Input.pieceOf, select, Piece.glyphs, value]

theorem glyphs_segmentPieces {template : Template} {left right : Bindings}
    (same : template.SameSelection left right) {segment : Segment}
    (member : segment ∈ template.segments) :
    (template.segmentPieces left segment).flatMap Piece.glyphs =
      (template.segmentPieces right segment).flatMap Piece.glyphs := by
  cases segment with
  | literal text => rfl
  | simple name => simp only [segmentPieces, List.flatMap_singleton, glyphs_referencePiece same]
  | conditional cond =>
    cases bound : template.boundInput? cond.name with
    | none => simp only [segmentPieces, bound]
    | some input =>
      have head : input.name ∈ template.heads := by
        rw [name_of_boundInput? bound]
        exact mem_heads member
      have value := same input (mem_inputs_of_boundInput? bound) (.inr head)
      simp only [segmentPieces, bound, value, List.flatMap_map]
      refine List.flatMap_congr fun part _ => ?_
      cases part with
      | text text => rfl
      | ref name => exact glyphs_referencePiece same name

/-- The entered values alone do not change what the shell reads with holes. -/
theorem glyphs_eq_of_sameSelection {template : Template} {left right : Bindings}
    (same : template.SameSelection left right) :
    template.glyphs left = template.glyphs right := by
  unfold glyphs pieces
  rw [List.flatMap_assoc, List.flatMap_assoc]
  exact List.flatMap_congr fun _ member => glyphs_segmentPieces same member

end Template

namespace Shell

theorem flatMap_fill_of_no_hole {word : List Glyph} (closed : ∀ name, Glyph.hole name ∉ word)
    (left right : String → List Char) :
    word.flatMap (Glyph.fill left) = word.flatMap (Glyph.fill right) := by
  refine List.flatMap_congr fun glyph member => ?_
  cases glyph with
  | char c => rfl
  | hole name => exact absurd member (closed name)

/-- Words whose holes are filled in two ways agree outside the holes. -/
theorem agreeOutsideHoles_fillWords (holed : Option (List (List Glyph)))
    (left right : String → List Char) :
    AgreeOutsideHoles holed (holed.map (Glyph.fillWords left))
      (holed.map (Glyph.fillWords right)) := by
  cases holed with
  | none => exact ⟨rfl, fun _ _ found => by cases found⟩
  | some words =>
    refine ⟨by simp [Glyph.fillWords], fun position word found closed => ?_⟩
    have found : words[position]? = some word := found
    simp [wordAt?, Glyph.fillWords, found, flatMap_fill_of_no_hole closed left right]

end Shell

/-- Where every entered value is met outside quotes, backslashes and comments, the shell makes of
the command the words it makes of the command with holes, each hole filled with the raw value. Other
values for the same selection fill the same holes and change no word without one. -/
theorem Template.words?_command (template : Template) (bindings : Bindings)
    (plain : Shell.Reading.start.HolesPlain (template.glyphs bindings)) :
    Shell.words? (template.command bindings).toList =
        (Glyph.words? (template.glyphs bindings)).map
          (Glyph.fillWords (template.rawValue bindings)) ∧
      ∀ other, template.SameSelection bindings other →
        Shell.words? (template.command other).toList =
            (Glyph.words? (template.glyphs bindings)).map
              (Glyph.fillWords (template.rawValue other)) ∧
          Shell.AgreeOutsideHoles (Glyph.words? (template.glyphs bindings))
            (Shell.words? (template.command bindings).toList)
            (Shell.words? (template.command other).toList) := by
  have filled : Shell.words? (template.command bindings).toList =
      (Glyph.words? (template.glyphs bindings)).map
        (Glyph.fillWords (template.rawValue bindings)) := by
    rw [← template.reveal_glyphs bindings, Shell.words?_reveal _ plain]
  refine ⟨filled, fun other same => ?_⟩
  have glyphs := glyphs_eq_of_sameSelection same
  have refilled : Shell.words? (template.command other).toList =
      (Glyph.words? (template.glyphs bindings)).map
        (Glyph.fillWords (template.rawValue other)) := by
    rw [← template.reveal_glyphs other, ← glyphs, Shell.words?_reveal _ plain]
  refine ⟨refilled, ?_⟩
  rw [filled, refilled]
  exact Shell.agreeOutsideHoles_fillWords _ _ _

/-- A search with a size in the middle of a word and a reference in a branch. -/
def Template.search : Template where
  id := "search"
  name := "Search"
  category := "files"
  inputs := [
    { name := "root", label := "Root" },
    { name := "size", label := "Size" },
    { name := "depth", label := "Depth", kind := .select, choices := ["one", "any"] }]
  text := "find \x7broot\x7d -size +\x7bsize\x7dM\x7bdepth|one: -path \"$P\"/\x7broot\x7d|\x7d # it's"

/-- Quotes, blanks, backslashes, references and comments in the values stay characters. -/
theorem Template.words?_search :
    let bindings : Bindings := ⟨[("root", "a'b \\\n\x7bsize\x7d"), ("size", "\"'# "), ("depth", "one")]⟩
    let other : Bindings := ⟨[("size", ""), ("root", "; rm -rf /"), ("depth", "one")]⟩
    Shell.Reading.start.HolesPlain (search.glyphs bindings) ∧
      search.SameSelection bindings other ∧
      Shell.words? (search.command bindings).toList =
        some ["find".toList, "a'b \\\n\x7bsize\x7d".toList, "-size".toList, "+\"'# M".toList,
          "-path".toList, "$P/a'b \\\n\x7bsize\x7d".toList] ∧
      (Shell.words? (search.command other).toList).map List.length = some 6 := by
  intro bindings other
  have plain : Shell.Reading.start.HolesPlain (search.glyphs bindings) := by decide +kernel
  have same : search.SameSelection bindings other := by decide +kernel
  have words := search.words?_command bindings plain
  refine ⟨plain, same, words.1.trans (by decide +kernel), ?_⟩
  rw [← (words.2 other same).2.1, words.1]
  decide +kernel

end CommandSynthesis
