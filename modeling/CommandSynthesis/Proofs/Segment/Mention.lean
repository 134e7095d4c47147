import CommandSynthesis.Proofs.Segment.Choice
import CommandSynthesis.Proofs.Segment.Length
import CommandSynthesis.Proofs.Segment.Recognition
import CommandSynthesis.Segment.Names
import Mathlib.Data.List.Perm.Subperm

set_option autoImplicit false

/-!
# Names mentioned in a text

Which names the tokens of a text mention, in the order of the text, and which of them are listed for
its segments. The names in clauses with a case are listed before those in the last clause without
one, and those in earlier clauses without a case are not listed. So the order of the text is kept
when after a clause without a case that mentions a name there are only clauses with a case that
mention none.
-/

namespace CommandSynthesis

open Brace
open BranchReader (branch? lastBare?)

/-! ## References in texts -/

/-- The names of the references in a text, in order. -/
def mentionsIn (text : List Char) : List String :=
  Part.references (Part.split text)

namespace Part

theorem references_putText (content : String) (parts : List Part) :
    references (putText content parts) = references parts := by
  cases parts with
  | nil => by_cases empty : content = "" <;> simp [putText, empty, references]
  | cons part parts =>
    cases part with
    | text more => rfl
    | ref name => by_cases empty : content = "" <;> simp [putText, empty, references]

end Part

theorem mentionsIn_nil : mentionsIn [] = [] := by
  rw [mentionsIn, Part.split_nil]
  rfl

theorem mentionsIn_reference {text name after : List Char}
    (taken : takeReference? text = some (name, after)) :
    mentionsIn ('{' :: text) = String.ofList name :: mentionsIn after := by
  rw [mentionsIn, Part.split_reference taken]
  rfl

theorem mentionsIn_char {c : Char} {text : List Char}
    (missing : c = '{' → takeReference? text = none) :
    mentionsIn (c :: text) = mentionsIn text := by
  rw [mentionsIn, Part.split_char missing, Part.references_putText]
  rfl

/-- No reference begins in a text and ends after it, if what follows can neither go on with a name
nor close a brace. -/
theorem mentionsIn_append (text : List Char) {rest : List Char}
    (stop : ∀ c, rest.head? = some c → isNameChar c = false ∧ c ≠ '}') :
    mentionsIn (text ++ rest) = mentionsIn text ++ mentionsIn rest := by
  induction text using reference_induction with
  | nil => rw [mentionsIn_nil]; rfl
  | reference text name after taken ih =>
    have longer : takeReference? (text ++ rest) = some (name, after ++ rest) := by
      rw [takeReference?_append (.inr stop), taken]
      rfl
    rw [List.cons_append, mentionsIn_reference longer, mentionsIn_reference taken, ih]
    rfl
  | char c text missing ih =>
    have missing' : c = '{' → takeReference? (text ++ rest) = none := by
      intro brace
      rw [takeReference?_append (.inr stop), missing brace]
      rfl
    rw [List.cons_append, mentionsIn_char missing', mentionsIn_char missing, ih]

theorem mentionsIn_eq_nil_iff {text : List Char} :
    mentionsIn text = [] ↔ ¬ HoldsReference text := by
  induction text using reference_induction with
  | nil => exact ⟨fun _ => not_holdsReference_nil, fun _ => mentionsIn_nil⟩
  | reference text name after taken _ =>
    rw [mentionsIn_reference taken, holdsReference_cons_iff, taken]
    simp
  | char c text missing ih =>
    rw [mentionsIn_char missing, ih, holdsReference_cons_iff, not_or]
    have none_begins : ¬ (c = '{' ∧ takeReference? text ≠ none) := fun begins =>
      begins.2 (missing begins.1)
    exact ⟨fun free => ⟨none_begins, free⟩, And.right⟩

/-- A case holds no reference, so that a clause mentions what its body mentions. -/
theorem HasCase.mentionsIn_eq {clause value body : List Char}
    (hasCase : HasCase clause value body) : mentionsIn clause = mentionsIn body := by
  have stop : ∀ c, (':' :: body).head? = some c → isNameChar c = false ∧ c ≠ '}' := by
    rintro c ⟨⟩
    decide
  have colon : mentionsIn (':' :: body) = mentionsIn body := mentionsIn_char nofun
  rw [hasCase.split, mentionsIn_append value stop, mentionsIn_eq_nil_iff.2 hasCase.plain, colon]
  rfl

/-! ## Clauses of a conditional -/

theorem exists_clauses_of_closes {depth : Int} {text : List Char} (closes : Closes depth text) :
    ∃ (clause : List Char) (clauses : List (List Char)),
      text = clause ++ clauses.flatMap ('|' :: ·) ∧ IsClause depth clause ∧ ∀ other ∈ clauses, IsClause 0 other := by
  induction text generalizing depth with
  | nil => exact ⟨[], [], rfl, isClause_nil_iff.2 (closes_nil_iff.1 closes), List.forall_mem_nil _⟩
  | cons c text ih =>
    obtain ⟨start, closes⟩ := closes_cons_iff.1 closes
    obtain ⟨clause, clauses, rfl, isClause, areClauses⟩ := ih closes
    by_cases bar : c = '|' ∧ depth = 0
    · obtain ⟨rfl, rfl⟩ := bar
      exact ⟨[], clause :: clauses, by simp, isClause_nil_iff.2 rfl,
        List.forall_mem_cons.2 ⟨isClause, areClauses⟩⟩
    · exact ⟨c :: clause, clauses, rfl, isClause_cons_iff.2 ⟨start, bar, isClause⟩, areClauses⟩

/-- Every conditional that is read is made of clauses. -/
theorem Segment.exists_ofClauses {text rest : List Char} {cond : Conditional}
    (found : token? text = some (.conditional cond, rest)) :
    ∃ name clause clauses, IsName name ∧ (∀ other ∈ clause :: clauses, IsClause 0 other) ∧
      cond = .ofClauses (String.ofList name)
        (String.ofList (conditionalText name (clause :: clauses))) (clause :: clauses) := by
  have begins := begins_of_token? found
  generalize sketched : Segment.sketch (.conditional cond) = sketch at begins
  cases begins with
  | simple => cases sketched
  | @conditional _ name body _ _ longest encloses split =>
    obtain ⟨_, counted, split'⟩ := encloses_iff.1 encloses
    cases List.append_cancel_left (split'.symm.trans split)
    rw [afterClose?_body longest] at counted
    obtain ⟨inside, rfl, closes⟩ := afterClose?_eq_some_iff.1 counted
    obtain ⟨clause, clauses, rfl, isClause, areClauses⟩ := exists_clauses_of_closes closes
    have areClauses := List.forall_mem_cons.2 ⟨isClause, areClauses⟩
    have whole : text = name ++ (clause :: clauses).flatMap ('|' :: ·) ++ '}' :: rest := by
      simp [longest.split]
    rw [whole, token?_clauses longest.isName areClauses] at found
    cases found
    exact ⟨name, clause, clauses, longest.isName, areClauses, rfl⟩

/-- Before a bar outside braces the clause ends. -/
theorem eq_nil_of_bar {clause rest : List Char} {clauses : List (List Char)}
    (isClause : IsClause 0 clause) (same : '|' :: rest = clause ++ clauses.flatMap ('|' :: ·)) :
    clause = [] ∧ ∃ next others, clauses = next :: others ∧
      rest = next ++ others.flatMap ('|' :: ·) := by
  cases clause with
  | nil =>
    cases clauses with
    | nil => cases same
    | cons next others => exact ⟨rfl, next, others, rfl, by simpa using same⟩
  | cons c clause =>
    cases same
    exact absurd ⟨rfl, rfl⟩ (isClause_cons_iff.1 isClause).2.1

/-- Before any other character it does not. -/
theorem exists_cons_of_char {depth : Int} {c : Char} {clause rest : List Char}
    {clauses : List (List Char)} (inside : ¬ (c = '|' ∧ depth = 0))
    (isClause : IsClause depth clause) (same : c :: rest = clause ++ clauses.flatMap ('|' :: ·)) :
    ∃ tail, clause = c :: tail ∧ rest = tail ++ clauses.flatMap ('|' :: ·) ∧
      IsClause (depth + weight c) tail := by
  cases clause with
  | nil =>
    cases clauses with
    | nil => cases same
    | cons next others =>
      cases same
      exact absurd ⟨rfl, isClause_nil_iff.1 isClause⟩ inside
  | cons d tail =>
    cases same
    exact ⟨tail, rfl, rfl, (isClause_cons_iff.1 isClause).2.2⟩

/-- A text is made of clauses in one way. -/
theorem clauses_unique {text : List Char} {depth : Int} {clause other : List Char}
    {clauses others : List (List Char)} (isClause : IsClause depth clause)
    (areClauses : ∀ clause ∈ clauses, IsClause 0 clause) (isOther : IsClause depth other)
    (areOthers : ∀ clause ∈ others, IsClause 0 clause)
    (left : text = clause ++ clauses.flatMap ('|' :: ·))
    (right : text = other ++ others.flatMap ('|' :: ·)) : clause = other ∧ clauses = others := by
  induction text generalizing depth clause other clauses others with
  | nil =>
    have left := List.append_eq_nil_iff.1 left.symm
    have right := List.append_eq_nil_iff.1 right.symm
    cases clauses with
    | cons => cases left.2
    | nil =>
      cases others with
      | cons => cases right.2
      | nil => exact ⟨left.1.trans right.1.symm, rfl⟩
  | cons c rest ih =>
    by_cases bar : c = '|' ∧ depth = 0
    · obtain ⟨rfl, rfl⟩ := bar
      obtain ⟨rfl, next, clauses, rfl, leftRest⟩ := eq_nil_of_bar isClause left
      obtain ⟨rfl, other, others, rfl, rightRest⟩ := eq_nil_of_bar isOther right
      obtain ⟨isClause, areClauses⟩ := List.forall_mem_cons.1 areClauses
      obtain ⟨isOther, areOthers⟩ := List.forall_mem_cons.1 areOthers
      obtain ⟨rfl, rfl⟩ := ih isClause areClauses isOther areOthers leftRest rightRest
      exact ⟨rfl, rfl⟩
    · obtain ⟨clause, rfl, leftRest, tail⟩ := exists_cons_of_char bar isClause left
      obtain ⟨other, rfl, rightRest, otherTail⟩ := exists_cons_of_char bar isOther right
      obtain ⟨rfl, rfl⟩ := ih tail areClauses otherTail areOthers leftRest rightRest
      exact ⟨rfl, rfl⟩

/-- What is between the braces of a conditional mentions what its clauses mention. -/
theorem mentionsIn_clauses (clause : List Char) (clauses : List (List Char)) :
    mentionsIn (clause ++ clauses.flatMap ('|' :: ·)) = (clause :: clauses).flatMap mentionsIn := by
  induction clauses generalizing clause with
  | nil => simp
  | cons other clauses ih =>
    have stop : ∀ c, ((other :: clauses).flatMap ('|' :: ·)).head? = some c →
        isNameChar c = false ∧ c ≠ '}' := by
      rintro c ⟨⟩
      decide
    have bar : mentionsIn ((other :: clauses).flatMap ('|' :: ·)) =
        (other :: clauses).flatMap mentionsIn := by
      have plain : '|' = '{' → takeReference? (other ++ clauses.flatMap ('|' :: ·)) = none := nofun
      rw [List.flatMap_cons, List.cons_append, mentionsIn_char plain, ih]
    rw [mentionsIn_append clause stop, bar, ← List.flatMap_cons]

/-- The names that are listed for clauses: those of the clauses with a case, then those of the last
clause without one. -/
def listedIn (clauses : List (List Char)) : List String :=
  (clauses.filter fun clause => (splitCase? 0 clause).isSome).flatMap mentionsIn ++
    ((lastBare? clauses).map mentionsIn).getD []

theorem references_ofClauses {clauses : List (List Char)}
    (areClauses : ∀ clause ∈ clauses, IsClause 0 clause) (name raw : String) :
    (Segment.conditional (.ofClauses name raw clauses)).references = name :: listedIn clauses := by
  have cased : ((clauses.filterMap branch?).flatMap fun branch => Part.references branch.body) =
      (clauses.filter fun clause => (splitCase? 0 clause).isSome).flatMap mentionsIn := by
    induction clauses with
    | nil => rfl
    | cons clause clauses ih =>
      obtain ⟨isClause, areClauses⟩ := List.forall_mem_cons.1 areClauses
      cases found : splitCase? 0 clause with
      | none => simpa [branch?, found] using ih areClauses
      | some split =>
        have same := HasCase.mentionsIn_eq ((hasCase_iff isClause).2 found)
        simp only [List.filterMap_cons, branch?, found, Option.map_some, List.flatMap_cons,
          List.filter_cons, Option.isSome_some, if_true, same, ← ih areClauses]
        rfl
  have bare : Part.references (((lastBare? clauses).map Part.split).getD []) =
      ((lastBare? clauses).map mentionsIn).getD [] := by
    cases lastBare? clauses <;> rfl
  rw [Segment.references, listedIn, ← cased, ← bare]
  rfl

theorem listedIn_case {clause : List Char} (cased : (splitCase? 0 clause).isSome = true)
    (clauses : List (List Char)) :
    listedIn (clause :: clauses) = mentionsIn clause ++ listedIn clauses := by
  have last : lastBare? (clause :: clauses) = lastBare? clauses := by
    simp [lastBare?, List.find?_append, Option.isSome_iff_ne_none.1 cased]
  simp [listedIn, last, cased]

theorem lastBare?_bare {clause : List Char} (bare : splitCase? 0 clause = none)
    (clauses : List (List Char)) :
    lastBare? (clause :: clauses) = (lastBare? clauses).or (some clause) := by
  simp [lastBare?, List.find?_append, bare]

/-- A clause without a case that comes last of its kind is listed at the end, any other not at all.
-/
theorem listedIn_bare {clause : List Char} (bare : splitCase? 0 clause = none)
    (clauses : List (List Char)) :
    listedIn (clause :: clauses) =
      listedIn clauses ++ if (lastBare? clauses).isSome then [] else mentionsIn clause := by
  cases last : lastBare? clauses <;> simp [listedIn, lastBare?_bare bare, bare, last]

/-- No name is listed more often than it is mentioned. -/
theorem listedIn_subperm (clauses : List (List Char)) :
    (listedIn clauses).Subperm (clauses.flatMap mentionsIn) := by
  induction clauses with
  | nil => exact List.nil_subperm
  | cons clause clauses ih =>
    rw [List.flatMap_cons]
    cases found : splitCase? 0 clause with
    | some split =>
      rw [listedIn_case (by rw [found]; rfl)]
      exact (List.subperm_append_left _).2 ih
    | none =>
      rw [listedIn_bare found]
      refine List.Subperm.trans ?_ List.perm_append_comm.subperm
      refine ih.append ?_
      split
      · exact List.nil_subperm
      · exact List.Subperm.refl _

/-- After a clause without a case that mentions a name there are only clauses with a case that
mention none. -/
def KeepOrder (clauses : List (List Char)) : Prop :=
  clauses.Pairwise fun earlier later =>
    IsBare earlier ∧ HoldsReference earlier → ¬ IsBare later ∧ ¬ HoldsReference later

/-- Clauses with a case are in order. -/
theorem keepOrder_of_not_isBare {clauses : List (List Char)}
    (cased : ∀ clause ∈ clauses, ¬ IsBare clause) : KeepOrder clauses := by
  refine List.Pairwise.imp_of_mem ?_ (List.pairwise_of_forall fun _ _ => trivial)
  intro earlier later member _ _ bare
  exact absurd bare.1 (cased earlier member)

theorem lastBare?_eq_none_iff {clauses : List (List Char)}
    (areClauses : ∀ clause ∈ clauses, IsClause 0 clause) :
    lastBare? clauses = none ↔ ∀ clause ∈ clauses, ¬ IsBare clause := by
  refine ⟨fun missing clause member bare => ?_, lastBare?_eq_none areClauses⟩
  have uncased := List.find?_eq_none.1 missing clause (List.mem_reverse.2 member)
  rw [(isBare_iff (areClauses clause member)).1 bare] at uncased
  exact uncased rfl

theorem flatMap_mentionsIn_eq_nil_iff {clauses : List (List Char)} :
    clauses.flatMap mentionsIn = [] ↔ ∀ clause ∈ clauses, ¬ HoldsReference clause := by
  simp only [List.flatMap_eq_nil_iff, mentionsIn_eq_nil_iff]

/-- Two texts that can be exchanged have a name in common, unless one of them is empty. -/
theorem eq_nil_of_append_comm {left right : List String} (distinct : (left ++ right).Nodup)
    (filled : left ≠ []) (same : right ++ left = left ++ right) : right = [] := by
  cases left with
  | nil => exact absurd rfl filled
  | cons name left =>
    cases right with
    | nil => rfl
    | cons other right =>
      have heads := List.head_eq_of_cons_eq same
      simp [heads] at distinct

theorem listedIn_eq_of_keepOrder {clauses : List (List Char)}
    (areClauses : ∀ clause ∈ clauses, IsClause 0 clause) (keep : KeepOrder clauses) :
    listedIn clauses = clauses.flatMap mentionsIn := by
  induction clauses with
  | nil => rfl
  | cons clause clauses ih =>
    obtain ⟨isClause, areClauses⟩ := List.forall_mem_cons.1 areClauses
    obtain ⟨later, keep⟩ := List.pairwise_cons.1 keep
    have rest := ih areClauses keep
    rw [List.flatMap_cons]
    cases found : splitCase? 0 clause with
    | some split => rw [listedIn_case (by rw [found]; rfl), rest]
    | none =>
      rw [listedIn_bare found, rest]
      by_cases mentions : HoldsReference clause
      · have later := fun other member =>
          later other member ⟨(isBare_iff isClause).2 found, mentions⟩
        rw [(lastBare?_eq_none_iff areClauses).2 fun other member => (later other member).1,
          flatMap_mentionsIn_eq_nil_iff.2 fun other member => (later other member).2]
        simp
      · simp [mentionsIn_eq_nil_iff.2 mentions]

theorem keepOrder_of_listedIn_eq {clauses : List (List Char)}
    (areClauses : ∀ clause ∈ clauses, IsClause 0 clause)
    (distinct : (clauses.flatMap mentionsIn).Nodup)
    (same : listedIn clauses = clauses.flatMap mentionsIn) : KeepOrder clauses := by
  induction clauses with
  | nil => exact .nil
  | cons clause clauses ih =>
    obtain ⟨isClause, areClauses⟩ := List.forall_mem_cons.1 areClauses
    rw [List.flatMap_cons] at distinct same
    have ih := ih areClauses (List.nodup_append.1 distinct).2.1
    cases found : splitCase? 0 clause with
    | some split =>
      have cased : ¬ IsBare clause := by simp [isBare_iff isClause, found]
      rw [listedIn_case (by rw [found]; rfl)] at same
      exact .cons (fun _ _ bare => absurd bare.1 cased) (ih (List.append_cancel_left same))
    | none =>
      rw [listedIn_bare found] at same
      by_cases mentions : HoldsReference clause
      · have filled : mentionsIn clause ≠ [] := fun empty => mentionsIn_eq_nil_iff.1 empty mentions
        cases last : lastBare? clauses with
        | some bare =>
          -- The names of the clause are mentioned and not listed.
          have shorter := (listedIn_subperm clauses).length_le
          have length := congrArg List.length same
          simp only [last, Option.isSome_some, if_true, List.append_nil, List.length_append]
            at length
          have positive := List.length_pos_iff.2 filled
          omega
        | none =>
          have uncased := (lastBare?_eq_none_iff areClauses).1 last
          have keep := keepOrder_of_not_isBare uncased
          have rest := listedIn_eq_of_keepOrder areClauses keep
          simp only [last, rest, Option.isSome_none, Bool.false_eq_true, if_false] at same
          have silent :=
            flatMap_mentionsIn_eq_nil_iff.1 (eq_nil_of_append_comm distinct filled same)
          exact .cons (fun other member _ => ⟨uncased other member, silent other member⟩) keep
      · have empty := mentionsIn_eq_nil_iff.2 mentions
        rw [empty] at same
        simp only [ite_self, List.append_nil, List.nil_append] at same
        exact .cons (fun _ _ bare => absurd bare.2 mentions) (ih same)

end CommandSynthesis
