import CommandSynthesis.Proofs.Text.Encoding
import CommandSynthesis.Segment.Reader

set_option autoImplicit false

/-!
# Reading a template by byte offsets

Another reader of templates, one that goes over the bytes of a text by their offsets and cuts pieces
out of it. Whatever could go wrong with offsets is a fault that ends the reading, and each piece
that is cut out, each turn of a loop and the end of each token are recorded.
-/

namespace CommandSynthesis.OffsetReader

inductive Fault where
  /-- A piece ends before it begins, or goes on behind the text. -/
  | outOfRange
  /-- A piece begins or ends inside a character. -/
  | offBoundary
  /-- A piece is no text. -/
  | malformed
  /-- More braces are closed than are open. -/
  | belowZero
  /-- A loop does not go on within the text, and would never end. -/
  | stalled
  deriving DecidableEq, Repr

inductive Loop where
  | template
  | branches
  deriving DecidableEq, Repr

inductive Event where
  /-- The piece from a first offset up to a last one was cut out. -/
  | cut (first last : Nat)
  /-- A turn of a loop went from one offset to another. -/
  | turn (loop : Loop) (first last : Nat)
  /-- A token was found that goes up to an offset. -/
  | token (last : Nat)
  deriving DecidableEq, Repr

/-- A reading with the record of what happened so far. -/
abbrev Scan := StateT (List Event) (Except Fault)

def record (event : Event) : Scan Unit :=
  modify (· ++ [event])

variable (bytes : List UInt8)

def cut (first last : Nat) : Scan (List Char) :=
  if last < first ∨ bytes.length < last then throw .outOfRange
  else if ¬ (Text.isBoundary bytes first ∧ Text.isBoundary bytes last) then throw .offBoundary
  else do
    record (.cut first last)
    match Text.decode? ((bytes.take last).drop first) with
    | some piece => return piece
    | none => throw .malformed

/-- The end of the name at an offset, if there is one. -/
def nameEnd? (place : Nat) : Option Nat :=
  match bytes[place]? with
  | none => none
  | some first =>
    if isNameStart (Text.ofByte first) then
      let more := (bytes.drop (place + 1)).takeWhile fun byte => isNameChar (Text.ofByte byte)
      some (place + 1 + more.length)
    else none

/-- The name of the reference that begins at an offset, and the offset behind it. -/
def reference? (place : Nat) : Scan (Option (String × Nat)) :=
  match nameEnd? bytes (place + 1) with
  | none => return none
  | some last =>
    if bytes[last]?.map Text.ofByte = some '}' then do
      let name ← cut bytes (place + 1) last
      return some (String.ofList name, last + 1)
    else return none

/-- What a turn of the loop over the branches comes to. -/
inductive Outcome where
  | goOn (reader : BranchReader) (next : Nat)
  | closed (reader : BranchReader) (next : Nat)
  | unclosed

/-- Reads the character of the branches at an offset, or a reference that begins with it. -/
def branchStep (reader : BranchReader) (place : Nat) (c : Char) : Scan Outcome :=
  if (c = '|' ∨ c = '}') ∧ reader.depth = 0 then
    if c = '}' then return .closed reader.endBranch (place + 1)
    else return .goOn reader.endBranch (place + 1)
  else if c = ':' ∧ reader.awaitsValue then return .goOn reader.endValue (place + 1)
  else if c = '{' then do
    match ← reference? bytes place with
    | some (name, last) => return .goOn (reader.addReference name) last
    | none => return .goOn reader.openBrace (place + 1)
  else if c = '}' then
    if reader.depth = 0 then throw .belowZero
    else return .goOn reader.closeBrace (place + 1)
  else do
    match ← cut bytes place bytes.length with
    | char :: _ => return .goOn (reader.addChar char) (place + char.utf8Size)
    | [] => return .unclosed

/-- A turn of the loop over the branches, at the byte that stands at an offset. -/
def branchTurn (reader : BranchReader) (place : Nat) : Scan Outcome :=
  match bytes[place]? with
  | none => return .unclosed
  | some byte => branchStep bytes reader place (Text.ofByte byte)

/-- Reads branches up to the brace that closes them, if there is one. -/
def branches (reader : BranchReader) (place : Nat) : Scan (Option (BranchReader × Nat)) := do
  match ← branchTurn bytes reader place with
  | .unclosed => return none
  | .closed final next =>
    record (.turn .branches place next)
    return some (final, next)
  | .goOn reader next =>
    record (.turn .branches place next)
    if place < next ∧ next ≤ bytes.length then branches reader next else throw .stalled
termination_by bytes.length - place

/-- The token that begins at an offset, if one does, and the offset behind it. -/
def token? (place : Nat) : Scan (Option (Segment × Nat)) :=
  match nameEnd? bytes (place + 1) with
  | none => return none
  | some last => do
    let name ← cut bytes (place + 1) last
    match bytes[last]?.map Text.ofByte with
    | some '}' => return some (.simple (String.ofList name), last + 1)
    | some '|' =>
      match ← branches bytes {} (last + 1) with
      | none => return none
      | some (reader, next) =>
        let raw ← cut bytes place next
        return some (.conditional {
          name := String.ofList name
          branches := reader.branches
          fallback := reader.fallback
          raw := String.ofList raw }, next)
    | _ => return none

/-- The offset of the first opening brace of a text. -/
def braceOffset? : List Char → Option Nat
  | [] => none
  | c :: rest => if c = '{' then some 0 else (braceOffset? rest).map (c.utf8Size + ·)

/-- The segments that are finished, the literal at hand and the offset of what was not yet read. -/
structure Draft where
  segments : List Segment
  literal : String
  place : Nat

/-- Reads up to the next opening brace, and the token there or the brace alone. -/
def templateTurn (draft : Draft) : Scan Draft := do
  let rest ← cut bytes draft.place bytes.length
  match braceOffset? rest with
  | none =>
    return { draft with literal := draft.literal ++ String.ofList rest, place := bytes.length }
  | some offset =>
    let brace := draft.place + offset
    let front ← cut bytes draft.place brace
    let literal := draft.literal ++ String.ofList front
    match ← token? bytes brace with
    | some (segment, next) =>
      record (.token next)
      return ⟨draft.segments ++ endLiteral literal [segment], "", next⟩
    | none => return { draft with literal := literal.push '{', place := brace + 1 }

def template (draft : Draft) : Scan (List Segment) := do
  if draft.place < bytes.length then
    let next ← templateTurn bytes draft
    record (.turn .template draft.place next.place)
    if draft.place < next.place ∧ next.place ≤ bytes.length then template next
    else throw .stalled
  else return draft.segments ++ endLiteral draft.literal []
termination_by bytes.length - draft.place

/-- The segments of a template and the record of the reading, or the fault that ended it. -/
def read (text : String) : Except Fault (List Segment × List Event) :=
  (template (Text.bytes text) ⟨[], "", 0⟩).run []

end CommandSynthesis.OffsetReader
