import CommandSynthesis.Segment.Reader
import CommandSynthesis.Segment.Names
import CommandSynthesis.Shell.Words
import CommandSynthesis.Template.Basic

set_option autoImplicit false

/-!
# Pieces of a command

A command is put together from pieces of three origins: text that the author of the template wrote,
values of select inputs, which stand as they are, and values of other inputs, which are quoted as
shell words. A name that no input has stands as it is written in the template.
-/

namespace CommandSynthesis

/-- A piece of a command and where it comes from. -/
inductive Piece where
  | author (text : String)
  | selected (name value : String)
  | entered (name value : String)
  deriving DecidableEq, Repr

namespace Piece

/-- The text of a piece in the command. -/
def text : Piece → String
  | author text => text
  | selected _ value => value
  | entered _ value => Shell.quoteString value

def command (pieces : List Piece) : String :=
  String.join (pieces.map text)

end Piece

namespace Input

/-- The piece for an input with a value. -/
def pieceOf (input : Input) (value : String) : Piece :=
  if input.isSelect then .selected input.name value else .entered input.name value

/-- The piece for the value of an input. -/
def piece (input : Input) (bindings : Bindings) : Piece :=
  input.pieceOf (input.value bindings)

end Input

namespace Template

/-- The input that a name stands for in the text of the template: the last one with the name. -/
def boundInput? (template : Template) (name : String) : Option Input :=
  template.inputs.reverse.find? (·.name == name)

theorem mem_inputs_of_boundInput? {template : Template} {name : String} {input : Input}
    (bound : template.boundInput? name = some input) : input ∈ template.inputs :=
  List.mem_reverse.1 (List.mem_of_find?_eq_some bound)

theorem name_of_boundInput? {template : Template} {name : String} {input : Input}
    (bound : template.boundInput? name = some input) : input.name = name := by
  simpa using List.find?_some bound

theorem boundInput?_eq_none_iff {template : Template} {name : String} :
    template.boundInput? name = none ↔ ∀ input ∈ template.inputs, input.name ≠ name := by
  simp [boundInput?]

/-- The piece for a reference to a name. -/
def referencePiece (template : Template) (bindings : Bindings) (name : String) : Piece :=
  match template.boundInput? name with
  | some input => input.piece bindings
  | none => .author (referenceText name)

/-- The piece for a part of a branch. -/
def partPiece (template : Template) (bindings : Bindings) : Part → Piece
  | .text text => .author text
  | .ref name => template.referencePiece bindings name

/-- The pieces for a segment. A conditional on a name that no input has stands as it is written. -/
def segmentPieces (template : Template) (bindings : Bindings) : Segment → List Piece
  | .literal text => [.author text]
  | .simple name => [template.referencePiece bindings name]
  | .conditional cond =>
    match template.boundInput? cond.name with
    | some input => (cond.select (input.value bindings)).map (template.partPiece bindings)
    | none => [.author cond.raw]

/-- The segments of the text of a template. -/
def segments (template : Template) : List Segment :=
  Segment.read template.text

/-- The pieces of the command for some values. -/
def pieces (template : Template) (bindings : Bindings) : List Piece :=
  template.segments.flatMap (template.segmentPieces bindings)

def command (template : Template) (bindings : Bindings) : String :=
  Piece.command (template.pieces bindings)

end Template

end CommandSynthesis
