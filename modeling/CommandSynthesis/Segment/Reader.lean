import CommandSynthesis.Segment.BranchReader

set_option autoImplicit false

/-!
# Reading a template

Reading never fails: an opening brace that begins no well-formed token is literal text, and reading
goes on at the character after it.
-/

namespace CommandSynthesis

/-- The token whose opening brace has just been read, if one begins there, and what follows it. -/
def token? (text : List Char) : Option (Segment × List Char) :=
  match takeName? text with
  | some (name, '}' :: rest) => some (.simple (String.ofList name), rest)
  | some (name, '|' :: body) =>
    (BranchReader.read {} body).map fun (reader, rest) =>
      (.conditional {
        name := String.ofList name
        branches := reader.branches
        fallback := reader.fallback
        raw := String.ofList ('{' :: text.take (text.length - rest.length)) }, rest)
  | _ => none

namespace BranchReader

/-- What follows the closing brace is shorter than what was to be read. -/
theorem length_of_read {reader final : BranchReader} {text rest : List Char}
    (closed : reader.read text = some (final, rest)) : rest.length < text.length := by
  fun_induction read reader text
  case case1 => cases closed
  case case2 =>
    cases closed
    exact Nat.lt_succ_self _
  case case5 taken _ _ _ ih =>
    exact Nat.lt_trans (ih closed) (Nat.lt_succ_of_lt (length_of_takeReference? taken))
  case case3 ih | case4 ih | case6 ih | case7 ih | case8 ih =>
    exact Nat.lt_succ_of_lt (ih closed)

end BranchReader

/-- A token takes at least one character after its opening brace. -/
theorem length_of_token? {text rest : List Char} {segment : Segment}
    (found : token? text = some (segment, rest)) : rest.length < text.length := by
  unfold token? at found
  split at found
  · next named =>
    cases found
    rw [append_of_takeName? named, List.length_append, List.length_cons]
    omega
  · next named =>
    obtain ⟨⟨reader, after⟩, closed, eq⟩ := Option.map_eq_some_iff.1 found
    cases eq
    have shorter := BranchReader.length_of_read closed
    rw [append_of_takeName? named, List.length_append, List.length_cons]
    omega
  · cases found

/-- Ends a literal; an empty one is left out. -/
def endLiteral (literal : String) (segments : List Segment) : List Segment :=
  if literal = "" then segments else .literal literal :: segments

/-- The segments of a text after a literal that has been read so far. -/
def readSegments (literal : String) (text : List Char) : List Segment :=
  match text with
  | [] => endLiteral literal []
  | c :: rest =>
    if c = '{' then
      match _ : token? rest with
      | some (segment, after) => endLiteral literal (segment :: readSegments "" after)
      | none => readSegments (literal.push '{') rest
    else readSegments (literal.push c) rest
termination_by text.length
decreasing_by
  case _ found => exact Nat.lt_succ_of_lt (length_of_token? found)
  all_goals exact Nat.lt_succ_self _

theorem readSegments_nil (literal : String) : readSegments literal [] = endLiteral literal [] := by
  rw [readSegments]

theorem readSegments_token {rest after : List Char} {segment : Segment}
    (found : token? rest = some (segment, after)) (literal : String) :
    readSegments literal ('{' :: rest) = endLiteral literal (segment :: readSegments "" after) := by
  rw [readSegments, if_pos rfl]
  split <;> simp_all

theorem readSegments_brace {rest : List Char} (missing : token? rest = none) (literal : String) :
    readSegments literal ('{' :: rest) = readSegments (literal.push '{') rest := by
  rw [readSegments, if_pos rfl]
  split <;> simp_all

theorem readSegments_char {c : Char} (other : c ≠ '{') (rest : List Char) (literal : String) :
    readSegments literal (c :: rest) = readSegments (literal.push c) rest := by
  rw [readSegments, if_neg other]

theorem readSegments_missing {c : Char} {text : List Char} (missing : c = '{' → token? text = none)
    (literal : String) : readSegments literal (c :: text) = readSegments (literal.push c) text := by
  by_cases brace : c = '{'
  · subst brace
    exact readSegments_brace (missing rfl) literal
  · exact readSegments_char brace text literal

/-- Induction on a text, token by token and otherwise character by character. -/
theorem token_induction {motive : List Char → Prop} (nil : motive [])
    (token : ∀ text segment rest, token? text = some (segment, rest) → motive rest →
      motive ('{' :: text))
    (char : ∀ c text, (c = '{' → token? text = none) → motive text → motive (c :: text))
    (text : List Char) : motive text := by
  fun_induction readSegments "" text with
  | case1 => exact nil
  | case2 _ text segment rest found ih => exact token text segment rest found ih
  | case3 _ text missing ih => exact char '{' text (fun _ => missing) ih
  | case4 _ c text other ih => exact char c text (fun brace => absurd brace other) ih

def Segment.read (template : String) : List Segment :=
  readSegments "" template.toList

end CommandSynthesis
