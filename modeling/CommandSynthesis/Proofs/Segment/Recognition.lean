import CommandSynthesis.Proofs.Segment.Brace
import CommandSynthesis.Segment.Reader

set_option autoImplicit false

/-!
# Tokens are found by matching braces

Which tokens a template holds, said by names and by counting braces alone. The reader finds these
tokens and no others: every brace that begins no token is literal text, and so is an unclosed
conditional, though the tokens after its bar are found.
-/

namespace CommandSynthesis

open Brace

/-- A segment without the division of a conditional into branches. -/
inductive Segment.Sketch where
  | literal (text : List Char)
  | simple (name : List Char)
  | conditional (name raw : List Char)
  deriving DecidableEq, Repr

namespace Segment

def sketch : Segment → Sketch
  | .literal text => .literal text.toList
  | .simple name => .simple name.toList
  | .conditional cond => .conditional cond.name.toList cond.raw.toList

/-- Puts a character before sketches; it joins a literal at the front. -/
def Sketch.putChar (c : Char) : List Sketch → List Sketch
  | .literal text :: sketches => .literal (c :: text) :: sketches
  | sketches => .literal [c] :: sketches

/-- Puts a text before sketches, character by character. -/
def Sketch.putText (text : List Char) (sketches : List Sketch) : List Sketch :=
  text.foldr putChar sketches

/-- A token begins at the front of a text, and something follows it: a name between braces, or a
name and a bar in braces that match. -/
inductive Begins : List Char → Sketch → List Char → Prop where
  | simple {text name rest : List Char} :
      LongestName text name ('}' :: rest) → Begins ('{' :: text) (.simple name) rest
  | conditional {text name body token rest : List Char} :
      LongestName text name ('|' :: body) → Encloses ('{' :: text) token →
      '{' :: text = token ++ rest → Begins ('{' :: text) (.conditional name token) rest

/-- A text scanned from left to right: a token is taken where one begins, and any other character
is literal text. -/
inductive Scanned : List Char → List Sketch → Prop where
  | done : Scanned [] []
  | token {text rest : List Char} {sketch : Sketch} {sketches : List Sketch} :
      Begins text sketch rest → Scanned rest sketches → Scanned text (sketch :: sketches)
  | literal {c : Char} {text : List Char} {sketches : List Sketch} :
      (∀ sketch rest, ¬ Begins (c :: text) sketch rest) → Scanned text sketches →
      Scanned (c :: text) (Sketch.putChar c sketches)

end Segment

open Segment

theorem afterClose?_body {text name body : List Char}
    (longest : LongestName text name ('|' :: body)) : afterClose? 0 text = afterClose? 0 body := by
  rw [longest.split, afterClose?_append longest.isName.plain, afterClose?_plain (by decide)]

/-- What was read up to the closing brace is the front of the text without the rest. -/
theorem split_of_afterClose? {text rest : List Char} (closed : afterClose? 0 text = some rest) :
    '{' :: text = '{' :: text.take (text.length - rest.length) ++ rest := by
  obtain ⟨inside, rfl, _⟩ := afterClose?_eq_some_iff.1 closed
  have length : (inside ++ '}' :: rest).length - rest.length = (inside ++ ['}']).length := by
    simp only [List.length_append, List.length_cons, List.length_nil]
    omega
  rw [length, List.append_cons, List.take_left, List.cons_append]

/-- A token is closed within itself. -/
theorem afterClose?_of_token? {text rest : List Char} {segment : Segment}
    (found : token? text = some (segment, rest)) : afterClose? 0 text = some rest := by
  unfold token? at found
  split at found
  · next named =>
    cases found
    obtain ⟨split, isName, _⟩ := takeName?_eq_some_iff.1 named
    rw [split, afterClose?_append isName.plain]
    rfl
  · next name body named =>
    obtain ⟨⟨reader, after⟩, closed, same⟩ := Option.map_eq_some_iff.1 found
    cases same
    rw [afterClose?_body (takeName?_eq_some_iff.1 named), ← BranchReader.rest_read {} body, closed]
    rfl
  · cases found

theorem begins_of_token? {text rest : List Char} {segment : Segment}
    (found : token? text = some (segment, rest)) : Begins ('{' :: text) segment.sketch rest := by
  have counted := afterClose?_of_token? found
  unfold token? at found
  split at found
  · next named =>
    cases found
    simpa [sketch] using Begins.simple (takeName?_eq_some_iff.1 named)
  · next name body named =>
    obtain ⟨⟨reader, after⟩, _, same⟩ := Option.map_eq_some_iff.1 found
    cases same
    have longest := takeName?_eq_some_iff.1 named
    have split := split_of_afterClose? counted
    simpa [sketch] using Begins.conditional longest (encloses_iff.2 ⟨rest, counted, split⟩) split
  · cases found

theorem token?_of_begins {text rest : List Char} {sketch : Sketch}
    (begins : Begins ('{' :: text) sketch rest) :
    ∃ segment, token? text = some (segment, rest) ∧ segment.sketch = sketch := by
  cases begins with
  | @simple _ name _ longest =>
    have named := takeName?_eq_some_iff.2 longest
    exact ⟨.simple (String.ofList name), by simp only [token?, named], by simp [Segment.sketch]⟩
  | @conditional _ name body token _ longest encloses split =>
    have named := takeName?_eq_some_iff.2 longest
    obtain ⟨rest', counted, split'⟩ := encloses_iff.1 encloses
    have same : rest' = rest := List.append_cancel_left (split'.symm.trans split)
    subst same
    have raw := List.append_cancel_right ((split_of_afterClose? counted).symm.trans split)
    rw [afterClose?_body longest] at counted
    have read := BranchReader.rest_read {} body
    rw [counted] at read
    obtain ⟨⟨reader, after⟩, closed, same⟩ := Option.map_eq_some_iff.1 read
    cases same
    refine ⟨.conditional ⟨String.ofList name, reader.branches, reader.fallback,
      String.ofList token⟩, ?_, by simp [Segment.sketch]⟩
    simp only [token?, named, closed, Option.map_some, raw]

theorem Segment.Begins.brace {text rest : List Char} {sketch : Sketch}
    (begins : Begins text sketch rest) : ∃ inner, text = '{' :: inner := by
  cases begins <;> exact ⟨_, rfl⟩

namespace Segment.Sketch

@[simp] theorem putText_nil (sketches : List Sketch) : putText [] sketches = sketches := rfl

theorem putText_append (text rest : List Char) (sketches : List Sketch) :
    putText (text ++ rest) sketches = putText text (putText rest sketches) :=
  List.foldr_append

/-- Before a token a text is a literal of its own, unless it is empty. -/
theorem putText_of_token {sketches : List Sketch}
    (token : ∀ text rest, sketches ≠ .literal text :: rest) (text : List Char) :
    putText text sketches = if text = [] then sketches else .literal text :: sketches := by
  induction text with
  | nil => rfl
  | cons c text ih =>
    rw [putText, List.foldr_cons, ← putText, ih]
    by_cases empty : text = []
    · rw [if_pos empty, if_neg (List.cons_ne_nil c text), empty]
      unfold putChar
      split
      · exact absurd rfl (token _ _)
      · rfl
    · rw [if_neg empty, if_neg (List.cons_ne_nil c text)]
      rfl

theorem putText_endLiteral {segments : List Segment}
    (token : ∀ text rest, segments.map sketch ≠ .literal text :: rest) (literal : String) :
    (endLiteral literal segments).map sketch = putText literal.toList (segments.map sketch) := by
  rw [putText_of_token token]
  unfold endLiteral
  by_cases empty : literal = ""
  · simp [empty]
  · simp [empty, sketch]

end Segment.Sketch

open Sketch

theorem Segment.Begins.ne_literal {text rest : List Char} {sketch : Sketch}
    (begins : Begins text sketch rest) (literal : List Char) : sketch ≠ .literal literal := by
  cases begins <;> nofun

/-- Reading after a literal gives what is scanned, with the literal in front. -/
theorem sketch_readSegments {text : List Char} {sketches : List Sketch}
    (scanned : Scanned text sketches) (literal : String) :
    (readSegments literal text).map sketch = putText literal.toList sketches := by
  induction scanned generalizing literal with
  | done =>
    rw [readSegments_nil]
    exact putText_endLiteral (by simp) literal
  | @token text rest found sketches begins _ ih =>
    obtain ⟨inner, rfl⟩ := begins.brace
    obtain ⟨segment, taken, same⟩ := token?_of_begins begins
    have rest := ih ""
    rw [String.toList_empty, putText_nil] at rest
    rw [readSegments_token taken, putText_endLiteral, List.map_cons, same, rest]
    simp [same, begins.ne_literal]
  | @literal c text sketches missing _ ih =>
    have none : c = '{' → token? text = none := by
      intro brace
      subst brace
      cases found : token? text with
      | none => rfl
      | some token => exact absurd (begins_of_token? found) (missing _ _)
    rw [readSegments_missing none, ih, String.toList_push, putText_append]
    rfl

theorem Segment.exists_scanned (text : List Char) : ∃ sketches, Scanned text sketches := by
  induction text using token_induction with
  | nil => exact ⟨[], .done⟩
  | token text segment rest found ih =>
    obtain ⟨sketches, scanned⟩ := ih
    exact ⟨_, .token (begins_of_token? found) scanned⟩
  | char c text missing ih =>
    obtain ⟨sketches, scanned⟩ := ih
    refine ⟨_, .literal (fun sketch rest begins => ?_) scanned⟩
    obtain ⟨inner, same⟩ := begins.brace
    cases same
    obtain ⟨segment, found, _⟩ := token?_of_begins begins
    rw [missing rfl] at found
    cases found

theorem Segment.scanned_iff_read {template : String} {sketches : List Sketch} :
    Scanned template.toList sketches ↔ (read template).map sketch = sketches := by
  have forward {sketches : List Sketch} (scanned : Scanned template.toList sketches) :
      (read template).map sketch = sketches := sketch_readSegments scanned ""
  constructor
  · exact forward
  · rintro rfl
    obtain ⟨sketches, scanned⟩ := exists_scanned template.toList
    rwa [forward scanned]

/-- Characters that are no opening brace are scanned as literal text. -/
theorem Segment.Scanned.putText {text rest : List Char} (plain : ∀ c ∈ text, c ≠ '{')
    {sketches : List Sketch} (scanned : Scanned rest sketches) :
    Scanned (text ++ rest) (Sketch.putText text sketches) := by
  induction text with
  | nil => exact scanned
  | cons c text ih =>
    refine .literal (fun sketch rest begins => ?_)
      (ih fun d member => plain d (List.mem_cons_of_mem c member))
    obtain ⟨inner, same⟩ := begins.brace
    cases same
    exact absurd rfl (plain '{' List.mem_cons_self)

/-- No token begins with a name and a bar in braces that do not match. -/
theorem Segment.not_begins_of_unclosed {name body : List Char} (isName : IsName name)
    (unclosed : ∀ token, ¬ Encloses ('{' :: (name ++ '|' :: body)) token) (sketch : Sketch)
    (rest : List Char) : ¬ Begins ('{' :: (name ++ '|' :: body)) sketch rest := by
  have bar : takeName? (name ++ '|' :: body) = some (name, '|' :: body) :=
    takeName?_append isName (by decide)
  intro begins
  cases begins with
  | simple longest =>
    rw [takeName?_eq_some_iff.2 longest] at bar
    cases bar
  | conditional _ encloses _ => exact unclosed _ encloses

/-- The reader finds the tokens that begin in the template, from left to right, and nothing else. An
opening brace, a name and a bar that are never closed are literal text before what is read of the
text after them. -/
theorem Segment.sketch_read (template : String) :
    (∀ sketches, Scanned template.toList sketches ↔ (read template).map sketch = sketches) ∧
      ∀ name body, IsName name → template.toList = '{' :: name ++ '|' :: body →
        (∀ token, ¬ Encloses template.toList token) →
          (read template).map sketch =
            Sketch.putText ('{' :: name ++ ['|']) ((read (String.ofList body)).map sketch) := by
  refine ⟨fun sketches => scanned_iff_read, fun name body isName split unclosed => ?_⟩
  have scanned : Scanned body ((read (String.ofList body)).map sketch) := by
    have scanned : Scanned (String.ofList body).toList ((read (String.ofList body)).map sketch) :=
      scanned_iff_read.2 rfl
    rwa [String.toList_ofList] at scanned
  have plain : ∀ c ∈ name ++ ['|'], c ≠ '{' := by
    intro c member
    rcases List.mem_append.1 member with member | member
    · exact (isName.plain c member).1
    · rw [List.mem_singleton.1 member]
      decide
  have whole : template.toList = '{' :: (name ++ '|' :: body) := split
  rw [whole] at unclosed
  have rest := Scanned.putText plain scanned
  rw [List.append_assoc] at rest
  rw [← scanned_iff_read, whole]
  exact .literal (not_begins_of_unclosed isName unclosed) rest

/-- The tokens after the bar of an unclosed conditional are found. -/
theorem Segment.sketch_read_unclosed :
    IsName ['x'] ∧ (∀ token, ¬ Encloses "\x7bx|a:\x7by\x7d \x7b".toList token) ∧
      (read "\x7bx|a:\x7by\x7d \x7b").map sketch =
        [.literal "\x7bx|a:".toList, .simple ['y'], .literal " \x7b".toList] := by
  have isName : IsName ['x'] := ⟨'x', [], rfl, rfl, nofun⟩
  have split : "\x7bx|a:\x7by\x7d \x7b".toList =
      '{' :: ['x'] ++ '|' :: "a:\x7by\x7d \x7b".toList := by decide +kernel
  have missing : afterClose? 0 (['x'] ++ '|' :: "a:\x7by\x7d \x7b".toList) = none := by
    decide +kernel
  have unclosed : ∀ token, ¬ Encloses "\x7bx|a:\x7by\x7d \x7b".toList token := by
    intro token encloses
    rw [split, List.cons_append] at encloses
    obtain ⟨rest, closed, _⟩ := encloses_iff.1 encloses
    rw [missing] at closed
    cases closed
  refine ⟨isName, unclosed, ?_⟩
  rw [(sketch_read "\x7bx|a:\x7by\x7d \x7b").2 ['x'] _ isName split unclosed]
  decide +kernel

end CommandSynthesis
