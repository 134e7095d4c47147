import CommandSynthesis.Proofs.Segment.Clause

set_option autoImplicit false

/-!
# Reading clauses

What the reader of branches makes of one clause, whatever follows it: a branch if the clause has a
case, and otherwise the fallback.
-/

namespace CommandSynthesis

open Brace

namespace BranchReader

/-- Reading the text leads from one reader to the next, whatever follows. -/
def Reads (reader : BranchReader) (text : List Char) (next : BranchReader) : Prop :=
  ∀ rest, reader.read (text ++ rest) = next.read rest

/-- Nothing of a branch has been read. -/
structure IsFresh (reader : BranchReader) : Prop where
  value : reader.value = none
  body : reader.body = []
  text : reader.text = ""
  depth : reader.depth = 0

/-- Adds a character to the text at hand and keeps count of the braces. -/
def putChar (reader : BranchReader) (c : Char) : BranchReader :=
  { reader.addChar c with depth := (reader.depth + weight c).toNat }

/-- Adds a text to the body at hand, split at its references, and closes the open braces. -/
def addBody (reader : BranchReader) (text : List Char) : BranchReader :=
  { reader with
    body := reader.body ++ Part.putText reader.text (Part.split text), text := "", depth := 0 }

/-- Makes the text before the first colon outside braces the value and the text after it the body,
or adds the whole text to the body if there is no such colon before the first reference. -/
def addCase (reader : BranchReader) (text : List Char) : BranchReader :=
  match splitCase? reader.depth text with
  | some (value, rest) =>
    { reader with
      value := some (reader.text ++ String.ofList value), body := Part.split rest, text := "",
      depth := 0 }
  | none => reader.addBody text

/-- Adds the branch of a clause, or its fallback if it has no case. -/
def addClause (reader : BranchReader) (clause : List Char) : BranchReader :=
  match splitCase? 0 clause with
  | some (value, body) =>
    { reader with branches := reader.branches ++ [⟨String.ofList value, Part.split body⟩] }
  | none => { reader with fallback := some (Part.split clause) }

theorem putChar_open (reader : BranchReader) : reader.putChar '{' = reader.openBrace := rfl

theorem putChar_close (reader : BranchReader) : reader.putChar '}' = reader.closeBrace := by
  have shallower : ((reader.depth : Int) + weight '}').toNat = reader.depth - 1 := by
    rw [weight_close]
    omega
  rw [putChar, shallower, closeBrace]

theorem putChar_plain {c : Char} (plain : c ≠ '{' ∧ c ≠ '}') (reader : BranchReader) :
    reader.putChar c = reader.addChar c := by
  rw [putChar, weight_of_plain plain]
  rfl

theorem endText_eq (reader : BranchReader) :
    reader.endText =
      { reader with body := reader.body ++ Part.putText reader.text [], text := "" } := by
  cases reader with
  | mk branches fallback value body text depth =>
    by_cases empty : text = "" <;> simp [endText, empty, Part.putText]

theorem endBranch_endText (reader : BranchReader) :
    reader.endText.endBranch = reader.endBranch := by
  simp [endText_eq, endBranch]

theorem awaitsValue_of_settled {reader : BranchReader}
    (settled : reader.value ≠ none ∨ reader.body ≠ []) : reader.awaitsValue = false := by
  rcases settled with value | body
  · simp [awaitsValue, Option.isNone_eq_false_iff.2 (Option.isSome_iff_ne_none.2 value)]
  · simp [awaitsValue, body]

theorem reads_nil {reader : BranchReader} : reader.Reads [] reader :=
  fun _ => rfl

theorem isClause_putChar {reader : BranchReader} {c : Char} {text : List Char}
    (clause : IsClause reader.depth (c :: text)) : IsClause (reader.putChar c).depth text := by
  have inner := (isClause_cons_iff.1 clause).2.2
  rwa [← Int.toNat_of_nonneg clause.level] at inner

/-- A character in a clause that begins no reference and ends no value is text. -/
theorem reads_char {reader next : BranchReader} {c : Char} {text : List Char}
    (clause : IsClause reader.depth (c :: text)) (missing : c = '{' → takeReference? text = none)
    (colon : ¬ (c = ':' ∧ reader.awaitsValue = true)) (reads : (reader.putChar c).Reads text next) :
    reader.Reads (c :: text) next := by
  intro rest
  rw [← reads rest, List.cons_append]
  obtain ⟨_, bar, _⟩ := isClause_cons_iff.1 clause
  have level := clause.level
  have bar : ¬ (c = '|' ∧ reader.depth = 0) := by rwa [Int.natCast_eq_zero] at bar
  have unclosed : ¬ (c = '}' ∧ reader.depth = 0) := by
    rintro ⟨rfl, closed⟩
    rw [closed] at level
    exact absurd level (by decide)
  rw [read, if_neg unclosed, if_neg bar, if_neg colon]
  by_cases brace : c = '{'
  · subst brace
    -- The brace is closed within the clause, so that no reference can reach beyond the clause.
    have missing : takeReference? (text ++ rest) = none := by
      rw [takeReference?_append (.inl clause.mem_close), missing rfl]
      rfl
    rw [if_pos rfl, ← putChar_open]
    split
    · next taken => cases missing.symm.trans taken
    · rfl
  · rw [if_neg brace]
    by_cases closing : c = '}'
    · rw [if_pos closing, closing, putChar_close]
    · rw [if_neg closing, putChar_plain ⟨brace, closing⟩]

theorem reads_colon {reader next : BranchReader} {text : List Char}
    (awaits : reader.awaitsValue = true) (reads : reader.endValue.Reads text next) :
    reader.Reads (':' :: text) next := by
  intro rest
  rw [← reads rest, List.cons_append, read, if_neg (by simp), if_neg (by simp),
    if_pos ⟨rfl, awaits⟩]

theorem reads_reference {reader next : BranchReader} {text name after : List Char}
    (taken : takeReference? text = some (name, after))
    (reads : (reader.addReference (String.ofList name)).Reads after next) :
    reader.Reads ('{' :: text) next := by
  intro rest
  obtain ⟨isName, rfl⟩ := takeReference?_eq_some_iff.1 taken
  rw [← reads rest, List.cons_append]
  have taken : takeReference? (name ++ '}' :: after ++ rest) = some (name, after ++ rest) :=
    takeReference?_eq_some_iff.2 ⟨isName, by simp⟩
  rw [read, if_neg (by simp), if_neg (by simp), if_neg (by simp), if_pos rfl]
  split
  · next taken' =>
    cases taken.symm.trans taken'
    rfl
  · next missing => cases taken.symm.trans missing

theorem endText_eq_addBody {reader : BranchReader} (closed : reader.depth = 0) :
    reader.endText = reader.addBody [] := by
  rw [endText_eq, addBody, Part.split_nil, ← closed]

theorem addBody_addReference {text name after : List Char}
    (taken : takeReference? text = some (name, after)) (reader : BranchReader) :
    (reader.addReference (String.ofList name)).addBody after = reader.addBody ('{' :: text) := by
  simp [addBody, addReference, endText_eq, Part.split_reference taken, Part.putText_ref]

theorem addBody_putChar {c : Char} {text : List Char}
    (missing : c = '{' → takeReference? text = none) (reader : BranchReader) :
    (reader.putChar c).addBody text = reader.addBody (c :: text) := by
  simp [addBody, putChar, addChar, Part.split_char missing, ← Part.putText_append]

theorem addCase_reference {text name after : List Char}
    (taken : takeReference? text = some (name, after)) (reader : BranchReader) :
    reader.addCase ('{' :: text) = reader.addBody ('{' :: text) := by
  simp [addCase, splitCase?, taken]

theorem addCase_colon {reader : BranchReader} (closed : reader.depth = 0)
    (body : reader.body = []) (text : List Char) :
    reader.endValue.addBody text = reader.addCase (':' :: text) := by
  simp [addCase, splitCase?, closed, addBody, endValue, body]

theorem addCase_putChar {reader : BranchReader} {c : Char} {text : List Char}
    (missing : c = '{' → takeReference? text = none) (colon : ¬ (c = ':' ∧ reader.depth = 0)) :
    (reader.putChar c).addCase text = reader.addCase (c :: text) := by
  have reference : ¬ (c = '{' ∧ takeReference? text ≠ none) :=
    fun ⟨brace, taken⟩ => taken (missing brace)
  rw [addCase, addCase, splitCase?, if_neg colon, if_neg reference, addBody_putChar missing]
  have depth : (reader.putChar c).depth = (reader.depth + weight c).toNat := rfl
  cases found : splitCase? (reader.depth + weight c).toNat text with
  | none => rw [depth, found]; rfl
  | some split =>
    have value : (reader.putChar c).text ++ String.ofList split.1 =
        reader.text ++ String.ofList (c :: split.1) := by
      rw [String.ofList_cons, ← String.append_assoc, String.append_singleton]
      rfl
    simp only [depth, found, Option.map_some, value]
    rfl

/-- Once the value of the branch is known or a reference has been read, the rest of a clause is
body. -/
theorem reads_body {reader : BranchReader} {text : List Char}
    (clause : IsClause reader.depth text) (settled : reader.value ≠ none ∨ reader.body ≠ []) :
    ∃ next, reader.Reads text next ∧ next.endText = reader.addBody text := by
  induction text using reference_induction generalizing reader with
  | nil =>
    have closed : reader.depth = 0 := Int.natCast_eq_zero.1 (isClause_nil_iff.1 clause)
    exact ⟨reader, reads_nil, endText_eq_addBody closed⟩
  | reference text name after taken ih =>
    have inner : IsClause (reader.addReference (String.ofList name)).depth after := by
      simpa using clause.of_reference taken
    obtain ⟨next, reads, ends⟩ := ih inner (.inr (by simp [addReference]))
    exact ⟨next, reads_reference taken reads, ends.trans (addBody_addReference taken reader)⟩
  | char c text missing ih =>
    have colon : ¬ (c = ':' ∧ reader.awaitsValue = true) := by
      simp [awaitsValue_of_settled settled]
    obtain ⟨next, reads, ends⟩ := ih (isClause_putChar clause) settled
    exact ⟨next, reads_char clause missing colon reads, ends.trans (addBody_putChar missing reader)⟩

/-- Before that, the first colon outside braces ends the value, unless a reference comes first. -/
theorem reads_clause {reader : BranchReader} {text : List Char}
    (clause : IsClause reader.depth text) (value : reader.value = none) (body : reader.body = []) :
    ∃ next, reader.Reads text next ∧ next.endText = reader.addCase text := by
  induction text using reference_induction generalizing reader with
  | nil =>
    have closed : reader.depth = 0 := Int.natCast_eq_zero.1 (isClause_nil_iff.1 clause)
    exact ⟨reader, reads_nil, endText_eq_addBody closed⟩
  | reference text name after taken ih =>
    have inner : IsClause (reader.addReference (String.ofList name)).depth after := by
      simpa using clause.of_reference taken
    obtain ⟨next, reads, ends⟩ := reads_body inner (.inr (by simp [addReference]))
    rw [addCase_reference taken]
    exact ⟨next, reads_reference taken reads, ends.trans (addBody_addReference taken reader)⟩
  | char c text missing ih =>
    by_cases colon : c = ':' ∧ reader.depth = 0
    · obtain ⟨rfl, closed⟩ := colon
      have inner : IsClause reader.endValue.depth text := by
        simpa [weight] using (isClause_cons_iff.1 clause).2.2
      obtain ⟨next, reads, ends⟩ := reads_body inner (.inl (by simp [endValue]))
      have awaits : reader.awaitsValue = true := by simp [awaitsValue, closed, value, body]
      exact ⟨next, reads_colon awaits reads, ends.trans (addCase_colon closed body text)⟩
    · obtain ⟨next, reads, ends⟩ := ih (isClause_putChar clause) value body
      have other : ¬ (c = ':' ∧ reader.awaitsValue = true) := by
        rintro ⟨rfl, awaits⟩
        simp only [awaitsValue, Bool.and_eq_true, beq_iff_eq] at awaits
        exact colon ⟨rfl, awaits.1.1⟩
      exact ⟨next, reads_char clause missing other reads, ends.trans (addCase_putChar missing colon)⟩

/-- The end of a clause adds it to the clauses before it. -/
theorem exists_reads_endBranch {reader : BranchReader} (fresh : reader.IsFresh)
    {clause : List Char} (isClause : IsClause 0 clause) :
    ∃ next, reader.Reads clause next ∧ next.depth = 0 ∧
      next.endBranch = reader.addClause clause := by
  have isClause : IsClause reader.depth clause := fresh.depth ▸ isClause
  obtain ⟨next, reads, ends⟩ := reads_clause isClause fresh.value fresh.body
  rw [addCase, fresh.depth] at ends
  refine ⟨next, reads, ?_, ?_⟩
  · rw [← depth_endText, ends]
    split <;> rfl
  · rw [← endBranch_endText, ends, addClause]
    cases splitCase? 0 clause <;>
      simp [addBody, endBranch, endText, fresh.value, fresh.body, fresh.text, fresh.depth]

end BranchReader

end CommandSynthesis
