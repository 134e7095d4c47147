import CommandSynthesis.Segment.Basic
import CommandSynthesis.Segment.Name

set_option autoImplicit false

/-!
# Reading the branches of a conditional

The branches are read in one pass, from the bar after the name to the brace that closes the
conditional. Braces that belong to no reference nest; a bar ends a branch only outside them, and a
colon outside them ends the value of a branch that holds no reference yet.
-/

namespace CommandSynthesis

/-- What has been read of the branches: those that are finished, the body of the last one without a
value, and of the branch at hand its value, the parts of its body, the text after them and the
number of open braces. -/
structure BranchReader where
  branches : List Branch := []
  fallback : Option (List Part) := none
  value : Option String := none
  body : List Part := []
  text : String := ""
  depth : Nat := 0
  deriving DecidableEq, Repr

namespace BranchReader

/-- Adds a character to the text at hand. -/
def addChar (reader : BranchReader) (c : Char) : BranchReader :=
  { reader with text := reader.text.push c }

def openBrace (reader : BranchReader) : BranchReader :=
  { reader.addChar '{' with depth := reader.depth + 1 }

def closeBrace (reader : BranchReader) : BranchReader :=
  { reader.addChar '}' with depth := reader.depth - 1 }

/-- Makes the text at hand a part, unless it is empty. -/
def endText (reader : BranchReader) : BranchReader :=
  if reader.text = "" then reader
  else { reader with body := reader.body ++ [.text reader.text], text := "" }

/-- Adds a reference to the body at hand. -/
def addReference (reader : BranchReader) (name : String) : BranchReader :=
  { reader.endText with body := reader.endText.body ++ [.ref name] }

/-- Makes the text at hand the value of the branch. -/
def endValue (reader : BranchReader) : BranchReader :=
  { reader with value := some reader.text, text := "" }

/-- Ends the branch at hand. Without a value its body becomes the fallback, in place of an earlier
one. -/
def endBranch (reader : BranchReader) : BranchReader :=
  match reader.value with
  | some value =>
    { reader.endText with
      branches := reader.branches ++ [⟨value, reader.endText.body⟩], value := none, body := [] }
  | none => { reader.endText with fallback := some reader.endText.body, body := [] }

@[simp] theorem depth_addChar (reader : BranchReader) (c : Char) :
    (reader.addChar c).depth = reader.depth := rfl

@[simp] theorem depth_openBrace (reader : BranchReader) :
    reader.openBrace.depth = reader.depth + 1 := rfl

@[simp] theorem depth_closeBrace (reader : BranchReader) :
    reader.closeBrace.depth = reader.depth - 1 := rfl

@[simp] theorem depth_endText (reader : BranchReader) : reader.endText.depth = reader.depth := by
  unfold endText
  split <;> rfl

@[simp] theorem depth_addReference (reader : BranchReader) (name : String) :
    (reader.addReference name).depth = reader.depth := depth_endText reader

@[simp] theorem depth_endValue (reader : BranchReader) :
    reader.endValue.depth = reader.depth := rfl

@[simp] theorem depth_endBranch (reader : BranchReader) :
    reader.endBranch.depth = reader.depth := by
  unfold endBranch
  split <;> exact depth_endText reader

/-- Whether a colon would end the value of the branch at hand. -/
def awaitsValue (reader : BranchReader) : Bool :=
  reader.depth == 0 && reader.value.isNone && reader.body.isEmpty

/-- Reads until the conditional is closed, if it is, and gives what follows its brace. -/
def read (reader : BranchReader) (text : List Char) : Option (BranchReader × List Char) :=
  match text with
  | [] => none
  | c :: rest =>
    if c = '}' ∧ reader.depth = 0 then some (reader.endBranch, rest)
    else if c = '|' ∧ reader.depth = 0 then reader.endBranch.read rest
    else if c = ':' ∧ reader.awaitsValue then reader.endValue.read rest
    else if c = '{' then
      match _ : takeReference? rest with
      | some (name, after) => (reader.addReference (String.ofList name)).read after
      | none => reader.openBrace.read rest
    else if c = '}' then reader.closeBrace.read rest
    else (reader.addChar c).read rest
termination_by text.length
decreasing_by
  · exact Nat.lt_succ_self _
  · exact Nat.lt_succ_self _
  · exact Nat.lt_succ_of_lt (length_of_takeReference? ‹_›)
  all_goals exact Nat.lt_succ_self _

end BranchReader

end CommandSynthesis
