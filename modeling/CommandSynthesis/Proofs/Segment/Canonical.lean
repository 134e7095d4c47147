import CommandSynthesis.Proofs.Segment.Mention
import CommandSynthesis.Proofs.Segment.NormalForm
import CommandSynthesis.Segment.Printer

set_option autoImplicit false

/-!
# Canonical text

A conditional is printed with its clauses that have a case, in their order, and then the last one
without a case; the others are dropped. Reading what was printed gives the printed segments again,
up to the texts that conditionals were read from. Text between tokens stays literal: the braces of a
token match however it is printed, so that none of them closes a brace before it.
-/

namespace CommandSynthesis

open Brace
open BranchReader (branch? lastBare?)

/-- The conditional as it is read from its own printed text. -/
def Conditional.canonical (cond : Conditional) : Conditional :=
  { cond with raw := cond.print }

def Segment.canonical : Segment → Segment
  | .conditional cond => .conditional cond.canonical
  | segment => segment

/-! ## Clauses that are printed -/

/-- The clauses with a case, then the last one without. -/
def keptClauses (clauses : List (List Char)) : List (List Char) :=
  (clauses.filter fun clause => (splitCase? 0 clause).isSome) ++ (lastBare? clauses).toList

theorem mem_of_lastBare? {clauses : List (List Char)} {clause : List Char}
    (last : lastBare? clauses = some clause) :
    clause ∈ clauses ∧ splitCase? 0 clause = none := by
  have bare := List.find?_some last
  exact ⟨List.mem_reverse.1 (List.mem_of_find?_eq_some last), Option.isNone_iff_eq_none.1 bare⟩

theorem mem_of_mem_keptClauses {clauses : List (List Char)} {clause : List Char}
    (kept : clause ∈ keptClauses clauses) : clause ∈ clauses := by
  rcases List.mem_append.1 kept with cased | last
  · exact (List.mem_filter.1 cased).1
  · exact (mem_of_lastBare? (Option.mem_toList.1 last)).1

theorem keptClauses_ne_nil {clauses : List (List Char)} (nonempty : clauses ≠ []) :
    keptClauses clauses ≠ [] := by
  obtain ⟨clause, others, rfl⟩ := List.exists_cons_of_ne_nil nonempty
  intro empty
  obtain ⟨uncased, last⟩ := List.append_eq_nil_iff.1 empty
  have bare : splitCase? 0 clause = none := by
    have dropped := List.filter_eq_nil_iff.1 uncased clause List.mem_cons_self
    exact Option.not_isSome_iff_eq_none.1 dropped
  rw [lastBare?_bare bare] at last
  cases found : lastBare? others <;> simp [found] at last

theorem filterMap_branch?_keptClauses (clauses : List (List Char)) :
    (keptClauses clauses).filterMap branch? = clauses.filterMap branch? := by
  have cased : (clauses.filter fun clause => (splitCase? 0 clause).isSome).filterMap branch? =
      clauses.filterMap branch? := by
    induction clauses with
    | nil => rfl
    | cons clause clauses ih =>
      cases found : splitCase? 0 clause <;> simp [branch?, found, ih]
  have bare : (lastBare? clauses).toList.filterMap branch? = [] := by
    cases last : lastBare? clauses with
    | none => rfl
    | some clause => simp [branch?, (mem_of_lastBare? last).2]
  rw [keptClauses, List.filterMap_append, cased, bare, List.append_nil]

theorem lastBare?_keptClauses (clauses : List (List Char)) :
    lastBare? (keptClauses clauses) = lastBare? clauses := by
  have uncased : lastBare? (clauses.filter fun clause => (splitCase? 0 clause).isSome) = none := by
    refine List.find?_eq_none.2 fun clause member => ?_
    have cased := (List.mem_filter.1 (List.mem_reverse.1 member)).2
    simp [Option.isSome_iff_ne_none.1 cased]
  unfold keptClauses
  cases last : lastBare? clauses with
  | none => rw [Option.toList_none, List.append_nil, uncased]
  | some clause => exact lastBare?_append rfl (mem_of_lastBare? last).2

/-- Dropping clauses that count for nothing leaves the conditional as it is. -/
theorem ofClauses_keptClauses (name raw : String) (clauses : List (List Char)) :
    Conditional.ofClauses name raw (keptClauses clauses) = .ofClauses name raw clauses := by
  unfold Conditional.ofClauses
  rw [filterMap_branch?_keptClauses, lastBare?_keptClauses]

/-- A conditional made of clauses is printed as those that count. -/
theorem toList_print_ofClauses {clauses : List (List Char)}
    (areClauses : ∀ clause ∈ clauses, IsClause 0 clause) (name raw : String) :
    (Conditional.ofClauses name raw clauses).print.toList =
      conditionalText name.toList (keptClauses clauses) := by
  have cased : (String.join ((clauses.filterMap branch?).map fun branch =>
      "|" ++ branch.value ++ ":" ++ Part.printAll branch.body)).toList =
        (clauses.filter fun clause => (splitCase? 0 clause).isSome).flatMap ('|' :: ·) := by
    induction clauses with
    | nil => rfl
    | cons clause clauses ih =>
      obtain ⟨isClause, areClauses⟩ := List.forall_mem_cons.1 areClauses
      have rest := ih areClauses
      rw [String.toList_join] at rest ⊢
      cases found : splitCase? 0 clause with
      | none => simpa [branch?, found] using rest
      | some split =>
        have printed : split.1 ++ ':' :: (Part.printAll (Part.split split.2)).toList = clause := by
          rw [(Part.splits_split split.2).whole]
          exact ((hasCase_iff isClause).2 found).split.symm
        simp [branch?, found, rest, printed]
  have bare : ((((lastBare? clauses).map Part.split).map fun body =>
      "|" ++ Part.printAll body).getD "").toList =
        (lastBare? clauses).toList.flatMap ('|' :: ·) := by
    cases lastBare? clauses with
    | none => rfl
    | some clause => simp [(Part.splits_split clause).whole]
  unfold Conditional.print conditionalText keptClauses
  simp only [Conditional.ofClauses, String.toList_append, cased, bare, List.flatMap_append]
  simp

/-! ## Tokens that are printed -/

/-- A printed token is read as itself, whatever follows it. -/
theorem token?_print {text rest : List Char} {segment : Segment}
    (found : token? text = some (segment, rest)) :
    ∃ inside, segment.print.toList = '{' :: inside ∧
      ∀ more, token? (inside ++ more) = some (segment.canonical, more) := by
  cases segment with
  | literal content => exact absurd rfl (ne_literal_of_token? found content)
  | simple name =>
    have begins := begins_of_token? found
    cases begins with
    | simple longest =>
      refine ⟨name.toList ++ ['}'], by simp [Segment.print, referenceText], fun more => ?_⟩
      have named : takeName? (name.toList ++ '}' :: more) = some (name.toList, '}' :: more) :=
        takeName?_append longest.isName (by decide)
      rw [List.append_assoc, List.singleton_append]
      simp only [token?, named, String.ofList_toList]
      rfl
  | conditional cond =>
    obtain ⟨name, clause, clauses, isName, areClauses, rfl⟩ := Segment.exists_ofClauses found
    -- What is printed are clauses as well, and at least one, so that they are read as they stand.
    generalize made : clause :: clauses = all at areClauses
    have kept : ∀ other ∈ keptClauses all, IsClause 0 other := fun other member =>
      areClauses other (mem_of_mem_keptClauses member)
    have nonempty : all ≠ [] := made ▸ List.cons_ne_nil clause clauses
    obtain ⟨first, others, split⟩ := List.exists_cons_of_ne_nil (keptClauses_ne_nil nonempty)
    have printed := toList_print_ofClauses areClauses (String.ofList name)
      (String.ofList (conditionalText name all))
    rw [String.toList_ofList] at printed
    refine ⟨name ++ (keptClauses all).flatMap ('|' :: ·) ++ ['}'], printed, fun more => ?_⟩
    have canonical : Conditional.canonical (.ofClauses (String.ofList name)
        (String.ofList (conditionalText name all)) all) =
          .ofClauses (String.ofList name) (String.ofList (conditionalText name (keptClauses all)))
            (keptClauses all) := by
      rw [ofClauses_keptClauses, ← printed, String.ofList_toList]
      rfl
    rw [List.append_assoc, List.singleton_append, Segment.canonical, canonical, split]
    exact token?_clauses isName (split ▸ kept)

/-! ## Texts that are printed -/

namespace Segment

theorem toList_printAll_cons (segment : Segment) (segments : List Segment) :
    (printAll (segment :: segments)).toList =
      segment.print.toList ++ (printAll segments).toList := by
  simp [printAll, String.toList_join]

theorem toList_printAll_endLiteral (literal : String) (segments : List Segment) :
    (printAll (endLiteral literal segments)).toList =
      literal.toList ++ (printAll segments).toList := by
  unfold endLiteral
  split
  · next empty => rw [empty, String.toList_empty, List.nil_append]
  · exact toList_printAll_cons _ _

theorem map_canonical_endLiteral (literal : String) (segments : List Segment) :
    (endLiteral literal segments).map canonical =
      endLiteral literal (segments.map canonical) := by
  unfold endLiteral
  split <;> rfl

end Segment

open Segment

/-- The canonical form of a text: what is read from it, printed. -/
def reprint (text : List Char) : List Char :=
  (printAll (readSegments "" text)).toList

theorem toList_printAll_readSegments (literal : String) (text : List Char) :
    (printAll (readSegments literal text)).toList = literal.toList ++ reprint text := by
  unfold reprint
  induction text using token_induction generalizing literal with
  | nil => simp [readSegments_nil, toList_printAll_endLiteral]
  | token text segment rest found ih =>
    simp [readSegments_token found, toList_printAll_endLiteral]
  | char c text missing ih =>
    rw [readSegments_missing missing, readSegments_missing missing, ih (literal.push c),
      ih ("".push c)]
    simp

theorem reprint_nil : reprint [] = [] := by
  simp [reprint, readSegments_nil, endLiteral, printAll]

theorem reprint_token {text rest : List Char} {segment : Segment}
    (found : token? text = some (segment, rest)) :
    reprint ('{' :: text) = segment.print.toList ++ reprint rest := by
  rw [reprint, readSegments_token found, toList_printAll_endLiteral, toList_printAll_cons]
  rfl

theorem reprint_char {c : Char} {text : List Char} (missing : c = '{' → token? text = none) :
    reprint (c :: text) = c :: reprint text := by
  rw [reprint, readSegments_missing missing, toList_printAll_readSegments]
  simp

theorem exists_reprint_cons (c : Char) (text : List Char) :
    ∃ more, reprint (c :: text) = c :: more := by
  by_cases missing : c = '{' → token? text = none
  · exact ⟨_, reprint_char missing⟩
  · obtain ⟨rfl, found⟩ := Classical.not_imp.1 missing
    obtain ⟨⟨segment, rest⟩, found⟩ := Option.ne_none_iff_exists'.1 found
    obtain ⟨inside, printed, _⟩ := token?_print found
    exact ⟨inside ++ reprint rest, by rw [reprint_token found, printed, List.cons_append]⟩

/-! ## Braces and names in what is printed -/

/-- What follows the brace that closes `depth` braces more than another one is found by closing
these after it. -/
theorem afterClose?_deeper {depth more : Nat} {text rest : List Char}
    (closed : afterClose? depth text = some rest) :
    afterClose? (more + depth + 1) text = afterClose? more rest := by
  induction text generalizing depth with
  | nil => cases closed
  | cons c text ih =>
    rw [afterClose?] at closed
    split at closed
    · next stop =>
      cases closed
      rw [stop.1, stop.2, afterClose?_close]
    · next inside =>
      have level := toNat_depth inside
      have deeper : ¬ (c = '}' ∧ more + depth + 1 = 0) := fun stop => Nat.succ_ne_zero _ stop.2
      have same : (((more + depth + 1 : Nat) : Int) + weight c).toNat =
          more + (depth + weight c).toNat + 1 := by
        omega
      rw [afterClose?, if_neg deeper, same, ih closed]

theorem afterClose?_token {text rest : List Char} {segment : Segment}
    (found : token? text = some (segment, rest)) (depth : Nat) :
    afterClose? depth ('{' :: text) = afterClose? depth rest := by
  rw [afterClose?_open]
  exact afterClose?_deeper (afterClose?_of_token? found)

/-- A brace is closed at the same place of the text and of what is printed of it. -/
theorem afterClose?_reprint (depth : Nat) (text : List Char) :
    afterClose? depth (reprint text) = (afterClose? depth text).map reprint := by
  induction text using token_induction generalizing depth with
  | nil => rw [reprint_nil]; rfl
  | token text segment rest found ih =>
    obtain ⟨inside, printed, read⟩ := token?_print found
    rw [reprint_token found, printed, List.cons_append, afterClose?_token (read (reprint rest)), ih,
      afterClose?_token found]
  | char c text missing ih =>
    rw [reprint_char missing, afterClose?, afterClose?]
    split
    · rfl
    · exact ih _

theorem span_reprint (text : List Char) :
    (reprint text).takeWhile isNameChar = text.takeWhile isNameChar ∧
      (reprint text).dropWhile isNameChar = reprint (text.dropWhile isNameChar) := by
  induction text with
  | nil => rw [reprint_nil]; exact ⟨rfl, reprint_nil.symm⟩
  | cons c text ih =>
    cases named : isNameChar c with
    | true =>
      have missing : c = '{' → token? text = none := by
        rintro rfl
        cases named
      simp [reprint_char missing, named, ih]
    | false =>
      obtain ⟨more, printed⟩ := exists_reprint_cons c text
      simp [printed, named]

theorem takeName?_reprint (text : List Char) :
    takeName? (reprint text) = (takeName? text).map fun (name, rest) => (name, reprint rest) := by
  cases text with
  | nil => rw [reprint_nil]; rfl
  | cons c text =>
    cases start : isNameStart c with
    | true =>
      have missing : c = '{' → token? text = none := by
        rintro rfl
        cases start
      rw [reprint_char missing, takeName?, takeName?, if_pos start, if_pos start,
        (span_reprint text).1, (span_reprint text).2]
      rfl
    | false =>
      obtain ⟨more, printed⟩ := exists_reprint_cons c text
      rw [printed, takeName?, takeName?, if_neg (by simp [start]), if_neg (by simp [start])]
      rfl

/-- After a name and a bar a token begins if there is a brace that closes it. -/
theorem token?_bar {text name body : List Char} (named : takeName? text = some (name, '|' :: body)) :
    token? text = none ↔ afterClose? 0 body = none := by
  have closed : (BranchReader.read {} body).map Prod.snd = afterClose? 0 body :=
    BranchReader.rest_read {} body
  rw [← closed, Option.map_eq_none_iff]
  simp only [token?, named, Option.map_eq_none_iff]

theorem token?_other {text name body : List Char} {c : Char}
    (named : takeName? text = some (name, c :: body)) (close : c ≠ '}') (bar : c ≠ '|') :
    token? text = none := by
  unfold token?
  rw [named]
  split
  · next same =>
    cases same
    exact absurd rfl close
  · next same =>
    cases same
    exact absurd rfl bar
  · rfl

/-- Where no token begins, none begins in what is printed. -/
theorem token?_reprint {text : List Char} (missing : token? text = none) :
    token? (reprint text) = none := by
  cases taken : takeName? text with
  | none => simp only [token?, takeName?_reprint, taken, Option.map_none]
  | some front =>
    obtain ⟨name, rest⟩ := front
    have named : takeName? (reprint text) = some (name, reprint rest) := by
      rw [takeName?_reprint, taken]
      rfl
    cases rest with
    | nil => simp only [token?, named, reprint_nil]
    | cons c body =>
      by_cases bar : c = '|'
      · -- The conditional has no end in the text, and finds none in what is printed after it.
        subst bar
        have plain : reprint ('|' :: body) = '|' :: reprint body :=
          reprint_char fun brace => absurd brace (by decide)
        rw [plain] at named
        rw [token?_bar named, afterClose?_reprint, (token?_bar taken).1 missing]
        rfl
      · have close : c ≠ '}' := by
          rintro rfl
          simp [token?, taken] at missing
        obtain ⟨more, printed⟩ := exists_reprint_cons c body
        rw [printed] at named
        exact token?_other named close bar

/-- Reading the canonical form of a text gives what is read from the text, in canonical form. -/
theorem readSegments_reprint (literal : String) (text : List Char) :
    readSegments literal (reprint text) = (readSegments literal text).map canonical := by
  induction text using token_induction generalizing literal with
  | nil =>
    rw [reprint_nil, readSegments_nil, map_canonical_endLiteral]
    rfl
  | token text segment rest found ih =>
    obtain ⟨inside, printed, read⟩ := token?_print found
    rw [reprint_token found, printed, List.cons_append, readSegments_token (read (reprint rest)),
      readSegments_token found, map_canonical_endLiteral, List.map_cons, ih]
  | char c text missing ih =>
    have still : c = '{' → token? (reprint text) = none := fun brace =>
      token?_reprint (missing brace)
    rw [reprint_char missing, readSegments_missing still, readSegments_missing missing, ih]

theorem Segment.read_printAll_read (source : String) :
    read (printAll (read source)) = (read source).map canonical :=
  readSegments_reprint "" source.toList

end CommandSynthesis
