import CommandSynthesis.Regex.SetMachine

set_option autoImplicit false

/-!
# Machines for forms

How much memory the machines take that match a form: one reads a text from its start, the other one
from its end. Every copy of a part that is repeated has states of its own. A part that ends in a
fork takes one more way where something follows it.
-/

namespace CommandSynthesis.Regex

open Unicode

/-- What has been built, and whether its last state is a fork. -/
structure Laid where
  extent : Extent
  forks : Bool
  deriving DecidableEq, Repr

namespace Laid

/-- The extent once something follows. -/
def joined (laid : Laid) : Extent :=
  if laid.forks then laid.extent.add 0 1 0 else laid.extent

/-- Builds a part a number of times more, one after another. A machine that is too large already is
left as it is. -/
def copies (lay : Extent → Laid) (laid : Laid) : Nat → Laid
  | 0 => laid
  | count + 1 =>
    if Extent.limit < laid.extent.size then laid else copies lay (lay laid.joined) count

/-- Builds a part a number of times more, each of which may be left out together with those after
it. -/
def options (lay : Extent → Laid) (laid : Laid) : Nat → Laid
  | 0 => laid
  | count + 1 =>
    if Extent.limit < laid.extent.size then laid
    else options lay (lay (laid.joined.add 1 2 0)) count

end Laid

/-- Builds a part a number of times; no times at all takes a state, too. -/
def layCopies (lay : Extent → Laid) (extent : Extent) : Nat → Laid
  | 0 => ⟨extent.add 1 0 0, false⟩
  | count + 1 => (lay extent).copies lay count

/-- Builds a part that is repeated; `consumes` says that it never matches the empty text. -/
def layRepetition (lay : Extent → Laid) (consumes : Bool) (extent : Extent) :
    Nat → Option Nat → Laid
  | 0, some 1 => ⟨(lay (extent.add 1 2 0)).joined.add 1 0 0, false⟩
  | 0, none =>
    if consumes then ⟨(lay (extent.add 1 1 0)).joined, true⟩
    else ⟨(lay extent).joined.add 3 4 0, false⟩
  | low, none => ⟨(layCopies lay extent low).joined.add 1 1 0, true⟩
  | low, some high =>
    let laid := layCopies lay extent low
    if low = high then laid
    else ⟨(Laid.options lay ⟨laid.extent.add 1 0 0, laid.forks⟩ (high - low)).joined, false⟩

namespace Form

def literal? : Form → Option (List Char)
  | literal text => some text
  | _ => none

def layWords (backward : Bool) (texts : List (List Char)) (extent : Extent) : Extent :=
  let words := (texts.map wordOf).map fun word => if backward then word.reverse else word
  let longest := words.foldl (fun longest word => max longest word.length) 0
  (extent.add 1 0 0).addWords (longest + 1) words

mutual

def lay (backward : Bool) (extent : Extent) : Form → Laid
  | empty => ⟨extent.add 1 0 0, false⟩
  | literal text => ⟨extent.add (wordOf text).length 0 0, false⟩
  | set ranges => ⟨extent.addSet backward ranges, false⟩
  | condition _ => ⟨extent.add 1 0 0, false⟩
  | repetition inside low high _ =>
    layRepetition (fun extent => inside.lay backward extent)
      (inside.leastLength?.any (0 < ·)) extent low high
  | capture inside =>
    if backward then inside.lay backward extent
    else ⟨(inside.lay backward (extent.add 1 0 0)).joined.add 1 0 0, false⟩
  | sequence items => laySequence backward ⟨extent, false⟩ items
  | choice items =>
    match items.mapM literal? with
    | some texts => ⟨layWords backward texts extent, false⟩
    | none => ⟨layChoice backward 1 extent items, false⟩

/-- Builds forms one after another, the last one first if they are read backward. -/
def laySequence (backward : Bool) (laid : Laid) : List Form → Laid
  | [] => laid
  | item :: rest =>
    if backward then item.lay backward (laySequence backward laid rest).joined
    else laySequence backward (item.lay backward laid.joined) rest

/-- Builds alternatives, the first of which has the given number; after the second the fork between
them and their common end are built. -/
def layChoice (backward : Bool) (number : Nat) (extent : Extent) : List Form → Extent
  | [] => extent
  | item :: rest =>
    let built := (item.lay backward extent).joined.add (if number = 2 then 2 else 0) 1 0
    layChoice backward (number + 1) built rest

end

/-- The extent of the machine of a form. Unless the form can match only where reading begins, what
is read before a match has states of its own. -/
def extent (backward : Bool) (form : Form) : Extent :=
  let isAnchored :=
    if backward then form.requires .textEnd true else form.requires .textStart false
  let start := if isAnchored then Extent.none.add 1 0 0 else Extent.none.add 3 2 1
  let laid := if backward then form.lay true start else (capture form).lay false start
  laid.joined.add 1 0 0

/-- Whether a form is a choice between so many words that they are looked up all at once, without a
machine. -/
def isWordList : Form → Bool
  | choice items => 3000 ≤ items.length && (items.mapM literal?).isSome
  | _ => false

/-- Whether the machines of a form are small enough. -/
def fits (form : Form) : Bool :=
  form.isWordList
    || ((form.extent false).size ≤ Extent.limit && (form.extent true).size ≤ Extent.limit)

end Form

end CommandSynthesis.Regex
