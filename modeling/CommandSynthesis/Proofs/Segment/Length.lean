import CommandSynthesis.Segment.Reader

set_option autoImplicit false

/-!
# Lengths of the texts in a conditional

A text in a body of a conditional is shorter than the text that the conditional was read from,
whatever the braces and bars between them were. So no choice of a conditional stands for the
conditional as it is written.
-/

namespace CommandSynthesis

/-- No text among the parts is longer than the bound. -/
def Part.AreWithin (bound : Nat) (parts : List Part) : Prop :=
  ∀ content, .text content ∈ parts → content.length ≤ bound

namespace Part

theorem areWithin_nil (bound : Nat) : AreWithin bound [] := by
  intro content member
  cases member

theorem AreWithin.mono {bound limit : Nat} {parts : List Part} (within : AreWithin bound parts)
    (le : bound ≤ limit) : AreWithin limit parts := by
  intro content member
  exact Nat.le_trans (within content member) le

theorem AreWithin.text {bound : Nat} {parts : List Part} (within : AreWithin bound parts)
    {content : String} (short : content.length ≤ bound) :
    AreWithin bound (parts ++ [.text content]) := by
  intro other member
  rcases List.mem_append.1 member with member | member
  · exact within other member
  · cases List.mem_singleton.1 member
    exact short

theorem AreWithin.ref {bound : Nat} {parts : List Part} (within : AreWithin bound parts)
    (name : String) : AreWithin bound (parts ++ [.ref name]) := by
  intro other member
  rcases List.mem_append.1 member with member | member
  · exact within other member
  · cases List.mem_singleton.1 member

end Part

open CommandSynthesis.Part

namespace BranchReader

/-- No text that has been read of the branches is longer than the bound. -/
structure Within (bound : Nat) (reader : BranchReader) : Prop where
  text : reader.text.length ≤ bound
  body : AreWithin bound reader.body
  fallback : AreWithin bound (reader.fallback.getD [])
  branches : ∀ branch ∈ reader.branches, AreWithin bound branch.body

variable {bound limit : Nat} {reader : BranchReader}

theorem within_start : Within 0 {} where
  text := Nat.le_refl 0
  body := areWithin_nil 0
  fallback := areWithin_nil 0
  branches := nofun

theorem Within.mono (within : Within bound reader) (le : bound ≤ limit) : Within limit reader where
  text := Nat.le_trans within.text le
  body := within.body.mono le
  fallback := within.fallback.mono le
  branches branch member := (within.branches branch member).mono le

theorem Within.addChar (within : Within bound reader) (c : Char) :
    Within (bound + 1) (reader.addChar c) := by
  have longer := within.mono (Nat.le_add_right bound 1)
  refine ⟨?_, longer.body, longer.fallback, longer.branches⟩
  change (reader.text.push c).length ≤ bound + 1
  rw [String.length_push]
  exact Nat.succ_le_succ within.text

theorem Within.openBrace (within : Within bound reader) : Within (bound + 1) reader.openBrace := by
  have added := within.addChar '{'
  exact ⟨added.text, added.body, added.fallback, added.branches⟩

theorem Within.closeBrace (within : Within bound reader) :
    Within (bound + 1) reader.closeBrace := by
  have added := within.addChar '}'
  exact ⟨added.text, added.body, added.fallback, added.branches⟩

theorem Within.endText (within : Within bound reader) : Within bound reader.endText := by
  unfold BranchReader.endText
  split
  · exact within
  · exact ⟨Nat.zero_le bound, within.body.text within.text, within.fallback, within.branches⟩

theorem Within.addReference (within : Within bound reader) (name : String) :
    Within bound (reader.addReference name) := by
  have ended := within.endText
  exact ⟨ended.text, ended.body.ref name, ended.fallback, ended.branches⟩

theorem Within.endValue (within : Within bound reader) : Within bound reader.endValue :=
  ⟨Nat.zero_le bound, within.body, within.fallback, within.branches⟩

theorem Within.endBranch (within : Within bound reader) : Within bound reader.endBranch := by
  have ended := within.endText
  unfold BranchReader.endBranch
  split
  · refine ⟨ended.text, areWithin_nil bound, ended.fallback, ?_⟩
    intro branch member
    rcases List.mem_append.1 member with member | member
    · exact within.branches branch member
    · cases List.mem_singleton.1 member
      exact ended.body
  · exact ⟨ended.text, areWithin_nil bound, ended.body, ended.branches⟩

theorem within_read {final : BranchReader} {text rest : List Char}
    (within : Within bound reader) (closed : reader.read text = some (final, rest))
    (room : bound + text.length ≤ limit + rest.length) : Within limit final := by
  fun_induction read reader text generalizing bound
  case case1 => cases closed
  case case2 =>
    cases closed
    rw [List.length_cons] at room
    exact within.endBranch.mono (by omega)
  case case3 ih =>
    rw [List.length_cons] at room
    exact ih within.endBranch closed (by omega)
  case case4 ih =>
    rw [List.length_cons] at room
    exact ih within.endValue closed (by omega)
  case case5 taken _ _ _ ih =>
    have shorter := length_of_takeReference? taken
    rw [List.length_cons] at room
    exact ih (within.addReference _) closed (by omega)
  case case6 ih =>
    rw [List.length_cons] at room
    exact ih within.openBrace closed (by omega)
  case case7 ih =>
    rw [List.length_cons] at room
    exact ih within.closeBrace closed (by omega)
  case case8 ih =>
    rw [List.length_cons] at room
    exact ih (within.addChar _) closed (by omega)

end BranchReader

theorem Conditional.select_mem (cond : Conditional) (value : String) :
    cond.select value = cond.fallback.getD [] ∨
      ∃ branch ∈ cond.branches, cond.select value = branch.body := by
  unfold select
  cases found : cond.branches.find? (·.value == value) with
  | none => exact .inl rfl
  | some branch => exact .inr ⟨branch, List.mem_of_find?_eq_some found, rfl⟩

theorem length_lt_raw_of_token? {text rest : List Char} {cond : Conditional}
    (found : token? text = some (.conditional cond, rest)) {value content : String}
    (member : .text content ∈ cond.select value) : content.length < cond.raw.length := by
  unfold token? at found
  split at found
  · cases found
  · next name body named =>
    obtain ⟨⟨reader, after⟩, closed, same⟩ := Option.map_eq_some_iff.1 found
    cases same
    have shorter := BranchReader.length_of_read closed
    have within : BranchReader.Within (body.length - rest.length) reader :=
      BranchReader.within_read BranchReader.within_start closed (by omega)
    have short : content.length ≤ body.length - rest.length := by
      rcases Conditional.select_mem _ value with selected | ⟨branch, known, selected⟩
      · rw [selected] at member
        exact within.fallback content member
      · rw [selected] at member
        exact within.branches branch known content member
    rw [append_of_takeName? named]
    simp only [String.length_ofList, List.length_cons, List.length_take, List.length_append]
    omega
  · cases found

theorem mem_endLiteral {literal : String} {segments : List Segment} {segment : Segment}
    (member : segment ∈ endLiteral literal segments) :
    (∃ content, segment = .literal content) ∨ segment ∈ segments := by
  unfold endLiteral at member
  split at member
  · exact .inr member
  · rcases List.mem_cons.1 member with same | member
    · exact .inl ⟨literal, same⟩
    · exact .inr member

/-- Segments that are no literals were read as tokens. -/
theorem exists_token?_of_mem {literal : String} {text : List Char} {segment : Segment}
    (member : segment ∈ readSegments literal text) :
    (∃ content, segment = .literal content) ∨
      ∃ text rest, token? text = some (segment, rest) := by
  fun_induction readSegments literal text
  case case1 =>
    rcases mem_endLiteral member with isLiteral | member
    · exact .inl isLiteral
    · cases member
  case case2 found ih =>
    rcases mem_endLiteral member with isLiteral | member
    · exact .inl isLiteral
    · rcases List.mem_cons.1 member with rfl | member
      · exact .inr ⟨_, _, found⟩
      · exact ih member
  case case3 ih => exact ih member
  case case4 ih => exact ih member

/-- No conditional of a template selects a text as long as the conditional itself. -/
theorem Segment.length_lt_raw {template : String} {cond : Conditional}
    (known : .conditional cond ∈ Segment.read template) {value content : String}
    (member : .text content ∈ cond.select value) : content.length < cond.raw.length := by
  rcases exists_token?_of_mem known with ⟨literal, same⟩ | ⟨text, rest, found⟩
  · cases same
  · exact length_lt_raw_of_token? found member

end CommandSynthesis
