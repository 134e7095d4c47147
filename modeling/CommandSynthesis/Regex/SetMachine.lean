import CommandSynthesis.Regex.Extent
import CommandSynthesis.Regex.StateTable

set_option autoImplicit false

/-!
# Machines for sets

The states that read one character of a set, byte by byte. Read forward, states that go on in the
same way are one, as far as a table of limited size remembers them. Read backward, sequences of
bytes that begin alike share the states of what they have in common.
-/

namespace CommandSynthesis.Regex

open Unicode

/-- A machine that is being built, with the states that can be found again. -/
structure Draft where
  extent : Extent
  table : StateTable

namespace Draft

/-- The state with a key; it is built if it is not found. -/
def state (draft : Draft) (key : List Nat) (ranges : Nat) : Nat × Draft :=
  match draft.table.find? key with
  | some state => (state, draft)
  | none =>
    let state := draft.extent.states
    (state, ⟨draft.extent.add 1 0 ranges, draft.table.insert key state⟩)

/-- The state from which sequences go on to the state `target`: one range for each range of bytes
that some of them begin with, in order. `depth` bounds the lengths of the sequences. -/
def forwardNode (target : Nat) : Nat → List (List ByteRange) → Draft → Nat × Draft
  | 0, _, draft => (target, draft)
  | depth + 1, sequences, draft =>
    let groups := sequences.splitBy fun one other => one.head? == other.head?
    let (key, draft) := groups.foldl
      (fun (key, draft) group =>
        match group.head?.bind List.head? with
        | some (first, last) =>
          let tails := group.map List.tail
          let (next, draft) :=
            if tails.all List.isEmpty then (target, draft)
            else forwardNode target depth tails draft
          (next :: last :: first :: key, draft)
        | none => (key, draft))
      ([], draft)
    draft.state key.reverse (key.length / 3)

/-- Adds the states of a sequence that is read from its last byte on and leads to the state
`target`, and a way to the state with which it begins. -/
def backwardSequence (target : Nat) (draft : Draft) (bytes : List ByteRange) : Draft :=
  let (_, draft) := bytes.foldl
    (fun (next, draft) range => draft.state [next, range.1, range.2] 0)
    (target, draft)
  { draft with extent := draft.extent.add 0 1 0 }

end Draft

/-- The most bytes that a character takes. -/
def longestForm : Nat := 4

/-- Adds the states that read one character of a set. -/
def Extent.addSet (backward : Bool) (ranges : CodeRanges) (extent : Extent) : Extent :=
  if ranges.all (·.2 < 0x80) then extent.add 2 0 ranges.length
  else
    let sequences := ranges.flatMap rangeSequences
    if backward then
      let draft : Draft := ⟨extent.add 2 0 0, .ofPlaces 1000⟩
      (sequences.foldl (Draft.backwardSequence (extent.states + 1)) draft).extent
    else
      let draft : Draft := ⟨extent.add 1 0 0, .ofPlaces 10000⟩
      (Draft.forwardNode extent.states longestForm sequences draft).2.extent

end CommandSynthesis.Regex
