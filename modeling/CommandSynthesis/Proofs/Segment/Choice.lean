import CommandSynthesis.Proofs.Segment.ClauseReader
import CommandSynthesis.Segment.Reader

set_option autoImplicit false

/-!
# What a conditional means

A conditional made of clauses is read as one segment. The body it chooses for a value is said of the
clauses alone: that of the first clause with the value as its case, else the last clause without a
case, else nothing.
-/

namespace CommandSynthesis

def IsBare (clause : List Char) : Prop :=
  ∀ value body, ¬ HasCase clause value body

/-- The body that clauses give for a value. -/
inductive Chosen (clauses : List (List Char)) (value : List Char) : List Char → Prop where
  | case {before after : List (List Char)} {clause body : List Char} :
      clauses = before ++ clause :: after → HasCase clause value body →
      (∀ earlier ∈ before, ∀ other, ¬ HasCase earlier value other) → Chosen clauses value body
  | bare {before after : List (List Char)} {clause : List Char} :
      (∀ clause ∈ clauses, ∀ body, ¬ HasCase clause value body) →
      clauses = before ++ clause :: after → IsBare clause →
      (∀ later ∈ after, ¬ IsBare later) → Chosen clauses value clause
  | nothing : (∀ clause ∈ clauses, ∀ body, ¬ HasCase clause value body) →
      (∀ clause ∈ clauses, ¬ IsBare clause) → Chosen clauses value []

namespace BranchReader

theorem IsFresh.addClause {reader : BranchReader} (fresh : reader.IsFresh) (clause : List Char) :
    (reader.addClause clause).IsFresh := by
  unfold BranchReader.addClause
  split <;> exact ⟨fresh.value, fresh.body, fresh.text, fresh.depth⟩

/-- The clauses up to the brace that closes the conditional are added one after another. -/
theorem read_clauses {reader : BranchReader} (fresh : reader.IsFresh) {clause : List Char}
    {clauses : List (List Char)} (isClause : IsClause 0 clause)
    (areClauses : ∀ other ∈ clauses, IsClause 0 other) (rest : List Char) :
    reader.read (clause ++ (clauses.flatMap ('|' :: ·) ++ '}' :: rest)) =
      some ((clause :: clauses).foldl addClause reader, rest) := by
  induction clauses generalizing reader clause with
  | nil =>
    obtain ⟨next, reads, closed, ends⟩ := exists_reads_endBranch fresh isClause
    rw [reads, List.flatMap_nil, List.nil_append, read, if_pos ⟨rfl, closed⟩, ends]
    rfl
  | cons other clauses ih =>
    obtain ⟨next, reads, closed, ends⟩ := exists_reads_endBranch fresh isClause
    rw [reads, List.flatMap_cons, List.cons_append, List.cons_append, List.append_assoc, read,
      if_neg (by simp), if_pos ⟨rfl, closed⟩, ends]
    exact ih (fresh.addClause clause) (areClauses other List.mem_cons_self)
      fun later member => areClauses later (List.mem_cons_of_mem other member)

/-- The branch of a clause with a case. -/
def branch? (clause : List Char) : Option Branch :=
  (splitCase? 0 clause).map fun (value, body) => ⟨String.ofList value, Part.split body⟩

theorem branches_foldl_addClause (clauses : List (List Char)) (reader : BranchReader) :
    (clauses.foldl addClause reader).branches = reader.branches ++ clauses.filterMap branch? := by
  induction clauses generalizing reader with
  | nil => simp
  | cons clause clauses ih =>
    rw [List.foldl_cons, ih, List.filterMap_cons]
    cases found : splitCase? 0 clause <;> simp [addClause, branch?, found]

/-- The last clause without a case. -/
def lastBare? (clauses : List (List Char)) : Option (List Char) :=
  clauses.reverse.find? fun clause => (splitCase? 0 clause).isNone

theorem fallback_foldl_addClause (clauses : List (List Char)) (reader : BranchReader) :
    (clauses.foldl addClause reader).fallback =
      ((lastBare? clauses).map Part.split).or reader.fallback := by
  induction clauses generalizing reader with
  | nil => simp [lastBare?]
  | cons clause clauses ih =>
    rw [List.foldl_cons, ih, lastBare?, lastBare?, List.reverse_cons, List.find?_append]
    cases found : splitCase? 0 clause <;> simp [addClause, found]

end BranchReader

open BranchReader (branch? lastBare?)

theorem hasCase_iff {clause value body : List Char} (isClause : IsClause 0 clause) :
    HasCase clause value body ↔ splitCase? 0 clause = some (value, body) :=
  (splitCase?_eq_some_iff isClause).symm

theorem isBare_iff {clause : List Char} (isClause : IsClause 0 clause) :
    IsBare clause ↔ splitCase? 0 clause = none := by
  simp only [IsBare, hasCase_iff isClause, Option.eq_none_iff_forall_ne_some, Prod.forall, ne_eq]

theorem lastBare?_eq_none {clauses : List (List Char)}
    (areClauses : ∀ clause ∈ clauses, IsClause 0 clause)
    (cased : ∀ clause ∈ clauses, ¬ IsBare clause) : lastBare? clauses = none := by
  rw [lastBare?, List.find?_eq_none]
  intro clause member found
  rw [List.mem_reverse] at member
  exact cased clause member
    ((isBare_iff (areClauses clause member)).2 (Option.isNone_iff_eq_none.1 found))

theorem lastBare?_append {before after : List (List Char)} {clause : List Char}
    (later : lastBare? after = none) (found : splitCase? 0 clause = none) :
    lastBare? (before ++ clause :: after) = some clause := by
  unfold lastBare? at later ⊢
  simp [later, found]

theorem branch?_eq_some_iff {clause : List Char} {branch : Branch} (isClause : IsClause 0 clause) :
    branch? clause = some branch ↔
      ∃ body, HasCase clause branch.value.toList body ∧ branch.body = Part.split body := by
  simp only [hasCase_iff isClause, branch?, Option.map_eq_some_iff]
  constructor
  · rintro ⟨⟨value, body⟩, found, rfl⟩
    exact ⟨body, by rwa [String.toList_ofList], rfl⟩
  · rintro ⟨body, found, same⟩
    exact ⟨_, found, by rw [String.ofList_toList, ← same]⟩

namespace Conditional

/-- The conditional that clauses make. -/
def ofClauses (name raw : String) (clauses : List (List Char)) : Conditional where
  name
  branches := clauses.filterMap branch?
  fallback := (lastBare? clauses).map Part.split
  raw

theorem find?_eq_none {clauses : List (List Char)} {value : String}
    (areClauses : ∀ clause ∈ clauses, IsClause 0 clause)
    (missing : ∀ clause ∈ clauses, ∀ body, ¬ HasCase clause value.toList body) :
    (clauses.filterMap branch?).find? (·.value == value) = none := by
  rw [List.find?_eq_none]
  intro branch member same
  obtain ⟨clause, member, found⟩ := List.mem_filterMap.1 member
  obtain ⟨body, hasCase, _⟩ := (branch?_eq_some_iff (areClauses clause member)).1 found
  rw [beq_iff_eq.1 same] at hasCase
  exact missing clause member body hasCase

theorem select_eq_fallback {clauses : List (List Char)} {value : String}
    (areClauses : ∀ clause ∈ clauses, IsClause 0 clause)
    (missing : ∀ clause ∈ clauses, ∀ body, ¬ HasCase clause value.toList body)
    (name raw : String) :
    (ofClauses name raw clauses).select value = ((lastBare? clauses).map Part.split).getD [] := by
  simp only [select, ofClauses, find?_eq_none areClauses missing]

/-- The conditional selects the parts of the body that the clauses give. -/
theorem select_of_chosen {clauses : List (List Char)} {value : String} {body : List Char}
    (areClauses : ∀ clause ∈ clauses, IsClause 0 clause) (chosen : Chosen clauses value.toList body)
    (name raw : String) : (ofClauses name raw clauses).select value = Part.split body := by
  cases chosen with
  | @case before after clause _ split hasCase first =>
    subst split
    have isClause := areClauses clause (by simp)
    have found : branch? clause = some ⟨value, Part.split body⟩ :=
      (branch?_eq_some_iff isClause).2 ⟨body, hasCase, rfl⟩
    have earlier := find?_eq_none
      (fun clause member => areClauses clause (List.mem_append_left _ member)) first
    simp [select, ofClauses, found, earlier]
  | @bare before after _ missing split bare last =>
    have later := lastBare?_eq_none
      (fun clause member => areClauses clause (by simp [split, member])) last
    have found := (isBare_iff (areClauses body (by simp [split]))).1 bare
    rw [select_eq_fallback areClauses missing, split, lastBare?_append later found]
    rfl
  | nothing missing cased =>
    rw [select_eq_fallback areClauses missing, lastBare?_eq_none areClauses cased, Part.split_nil]
    rfl

end Conditional

theorem exists_first {p : List Char → Prop} {clauses : List (List Char)}
    (holding : ∃ clause ∈ clauses, p clause) :
    ∃ before clause after, clauses = before ++ clause :: after ∧ p clause ∧
      ∀ earlier ∈ before, ¬ p earlier := by
  induction clauses with
  | nil =>
    obtain ⟨clause, member, _⟩ := holding
    cases member
  | cons first clauses ih =>
    by_cases holds : p first
    · exact ⟨[], first, clauses, rfl, holds, nofun⟩
    · obtain ⟨clause, member, found⟩ := holding
      have member : clause ∈ clauses :=
        (List.mem_cons.1 member).resolve_left fun same => holds (same ▸ found)
      obtain ⟨before, clause, after, rfl, found, earlier⟩ := ih ⟨clause, member, found⟩
      refine ⟨first :: before, clause, after, rfl, found, fun other member => ?_⟩
      rcases List.mem_cons.1 member with rfl | member
      · exact holds
      · exact earlier other member

/-- Clauses give some body for every value. -/
theorem exists_chosen (clauses : List (List Char)) (value : List Char) :
    ∃ body, Chosen clauses value body := by
  by_cases cased : ∃ clause ∈ clauses, ∃ body, HasCase clause value body
  · obtain ⟨before, clause, after, split, ⟨body, hasCase⟩, first⟩ := exists_first cased
    exact ⟨body, .case split hasCase fun earlier member other hasCase =>
      first earlier member ⟨other, hasCase⟩⟩
  · have missing : ∀ clause ∈ clauses, ∀ body, ¬ HasCase clause value body :=
      fun clause member body hasCase => cased ⟨clause, member, body, hasCase⟩
    -- The last clause without a case is the first one from behind.
    by_cases bare : ∃ clause ∈ clauses.reverse, IsBare clause
    · obtain ⟨after, clause, before, split, bare, last⟩ := exists_first bare
      have split : clauses = before.reverse ++ clause :: after.reverse := by
        rw [← List.reverse_reverse clauses, split]
        simp
      exact ⟨clause, .bare missing split bare fun later member =>
        last later (List.mem_reverse.1 member)⟩
    · exact ⟨[], .nothing missing fun clause member isBare =>
        bare ⟨clause, List.mem_reverse.2 member, isBare⟩⟩

/-- The text of a conditional made of clauses. -/
def conditionalText (name : List Char) (clauses : List (List Char)) : List Char :=
  '{' :: (name ++ clauses.flatMap ('|' :: ·) ++ ['}'])

theorem token?_clauses {name clause rest : List Char} {clauses : List (List Char)}
    (isName : IsName name) (areClauses : ∀ other ∈ clause :: clauses, IsClause 0 other) :
    token? (name ++ (clause :: clauses).flatMap ('|' :: ·) ++ '}' :: rest) =
      some (.conditional (.ofClauses (String.ofList name)
        (String.ofList (conditionalText name (clause :: clauses))) (clause :: clauses)), rest) := by
  obtain ⟨isClause, areClauses⟩ := List.forall_mem_cons.1 areClauses
  have fresh : BranchReader.IsFresh {} := ⟨rfl, rfl, rfl, rfl⟩
  have closed := BranchReader.read_clauses fresh isClause areClauses rest
  have bar : isNameChar '|' = false := by decide
  let inside := name ++ '|' :: (clause ++ clauses.flatMap ('|' :: ·))
  have split : name ++ (clause :: clauses).flatMap ('|' :: ·) ++ '}' :: rest =
      name ++ '|' :: (clause ++ (clauses.flatMap ('|' :: ·) ++ '}' :: rest)) := by simp
  have whole : name ++ '|' :: (clause ++ (clauses.flatMap ('|' :: ·) ++ '}' :: rest)) =
      (inside ++ ['}']) ++ rest := by simp [inside]
  have raw : (name ++ '|' :: (clause ++ (clauses.flatMap ('|' :: ·) ++ '}' :: rest))).take
      ((name ++ '|' :: (clause ++ (clauses.flatMap ('|' :: ·) ++ '}' :: rest))).length -
        rest.length) = inside ++ ['}'] := by
    rw [whole, List.length_append, Nat.add_sub_cancel, List.take_left]
  have source : conditionalText name (clause :: clauses) = '{' :: (inside ++ ['}']) := by
    simp [conditionalText, inside]
  rw [split, source]
  simp only [token?, takeName?_append isName bar, closed, Option.map_some, raw,
    BranchReader.branches_foldl_addClause, BranchReader.fallback_foldl_addClause,
    List.nil_append, Option.or_none, Conditional.ofClauses]

/-- Clauses between braces after a name are read as one conditional. What it selects for a value is
the body that the clauses give for it, split at its references. -/
theorem Segment.select_read {name : List Char} {clauses : List (List Char)} (isName : IsName name)
    (nonempty : clauses ≠ []) (areClauses : ∀ clause ∈ clauses, IsClause 0 clause) :
    ∃ cond, read (String.ofList (conditionalText name clauses)) = [.conditional cond] ∧
      cond.name = String.ofList name ∧
      cond.raw = String.ofList (conditionalText name clauses) ∧
      ∀ value parts, cond.select value = parts ↔
        ∃ body, Chosen clauses value.toList body ∧ Part.Splits body parts := by
  refine ⟨.ofClauses (String.ofList name) (String.ofList (conditionalText name clauses)) clauses,
    ?_, rfl, rfl, fun value parts => ?_⟩
  · obtain ⟨clause, clauses, rfl⟩ := List.exists_cons_of_ne_nil nonempty
    rw [read, String.toList_ofList, conditionalText,
      readSegments_token (token?_clauses isName areClauses), readSegments_nil]
    rfl
  · constructor
    · rintro rfl
      obtain ⟨body, chosen⟩ := exists_chosen clauses value.toList
      exact ⟨body, chosen, Conditional.select_of_chosen areClauses chosen _ _ ▸ Part.splits_split body⟩
    · rintro ⟨body, chosen, splits⟩
      rw [Conditional.select_of_chosen areClauses chosen, splits.split_eq]

/-- A value that is no case gives the last clause without one, here a clause whose colon comes after
a reference. -/
theorem Segment.select_read_os :
    let clauses := ["mac:open \x7bfile\x7d", "xdg-open", "\x7bshell\x7d win:start", ":",
      "\x7ba:|b\x7d: c"].map String.toList
    IsName ['o', 's'] ∧ clauses ≠ [] ∧ (∀ clause ∈ clauses, IsClause 0 clause) ∧
      ∃ body, Chosen clauses "bsd".toList body ∧
        Part.Splits body [.ref "shell", .text " win:start"] := by
  intro clauses
  have isName : IsName ['o', 's'] := ⟨'o', ['s'], rfl, rfl, List.forall_mem_singleton.2 rfl⟩
  have areClauses : ∀ clause ∈ clauses, IsClause 0 clause := by decide +kernel
  have nonempty : clauses ≠ [] := List.cons_ne_nil _ _
  obtain ⟨cond, found, _, _, selects⟩ := select_read isName nonempty areClauses
  refine ⟨isName, nonempty, areClauses, (selects "bsd" _).1 ?_⟩
  have same : (conditionals (read (String.ofList (conditionalText ['o', 's'] clauses)))).map
      (·.select "bsd") = [[.ref "shell", .text " win:start"]] := by decide +kernel
  rw [found] at same
  exact List.singleton_inj.1 same

end CommandSynthesis
