import CommandSynthesis.Regex.Form
import CommandSynthesis.Unicode.Utf8

set_option autoImplicit false

/-!
# Extents of machines

How much memory a machine over bytes takes while it is built: each state has a size of its own, each
way out of a fork is written down beside it, and so is each range of bytes of a state with several.
Alternatives that are all words share the states of the bytes that they begin with in common.
-/

namespace CommandSynthesis.Regex

open Unicode

structure Extent where
  states : Nat
  /-- The ways out of forks. -/
  ways : Nat
  /-- The ranges of states that look their next state up by the byte. -/
  ranges : Nat
  deriving DecidableEq, Repr

namespace Extent

def none : Extent := ⟨0, 0, 0⟩

def size (extent : Extent) : Nat :=
  32 * extent.states + 4 * extent.ways + 8 * extent.ranges

/-- The bytes that a machine may take. -/
def limit : Nat := 10 * 1024 * 1024

/-- The extent with more states, ways and ranges. -/
def add (extent : Extent) (states ways ranges : Nat) : Extent :=
  ⟨extent.states + states, extent.ways + ways, extent.ranges + ranges⟩

end Extent

/-- A word as the numbers of its bytes. -/
abbrev Word := List Nat

/-- The bytes of a text. -/
def wordOf (text : List Char) : Word :=
  (String.ofList text).toUTF8.toList.map UInt8.toNat

/-- Words split at the empty words between them. -/
def splitAtEnds : List Word → List (List Word)
  | [] => [[]]
  | [] :: rest => [] :: splitAtEnds rest
  | word :: rest =>
    match splitAtEnds rest with
    | [] => [[word]]
    | part :: parts => (word :: part) :: parts

/-- The parts of the words that go on from a node: a word that ends there ends a part, so that the
words before it are tried before it and those after it later. A further end in front of all words
adds nothing. -/
def wordParts : List Word → List (List Word)
  | [] :: rest => [] :: splitAtEnds (rest.dropWhile List.isEmpty)
  | words => splitAtEnds words

/-- Adds the states below a node from which words go on, and the fork at it; `depth` bounds the
lengths of the words. -/
def Extent.addWords : Nat → List Word → Extent → Extent
  | 0, _, extent => extent
  | depth + 1, words, extent =>
    let parts := wordParts words
    let extent := parts.foldl
      (fun extent part =>
        let bytes := (part.filterMap List.head?).eraseDups
        let extent := bytes.foldl
          (fun extent byte =>
            let tails := (part.filter fun word => word.head? = some byte).map List.tail
            if tails.all List.isEmpty then extent else addWords depth tails extent)
          extent
        match bytes with
        | [] => extent
        | [_] => extent.add 1 1 0
        | bytes => extent.add 1 1 bytes.length)
      extent
    extent.add 1 (parts.length - 1) 0

end CommandSynthesis.Regex
