import CommandSynthesis.Proofs.Segment.Name
import CommandSynthesis.Segment.BranchReader

set_option autoImplicit false

/-!
# Matching braces

Braces are matched by counting alone: a brace is closed at the first place where as many braces have
been closed as opened. The reader of branches, which skips references and keeps a depth, finds the
same place.
-/

namespace CommandSynthesis

namespace Brace

/-- How many more braces a text opens than it closes. -/
def surplus (text : List Char) : Int :=
  (text.count '{' : Int) - text.count '}'

/-- What a character adds to the number of open braces. -/
def weight (c : Char) : Int :=
  if c = '{' then 1 else if c = '}' then -1 else 0

/-- At no place of the text are more than `depth` braces closed that it has not opened. -/
def Above (depth : Int) (text : List Char) : Prop :=
  ∀ before, before <+: text → -depth ≤ surplus before

/-- The text closes `depth` braces that it has not opened, and at no place more. -/
structure Closes (depth : Int) (text : List Char) : Prop where
  above : Above depth text
  total : surplus text = -depth

/-- The front of a text up to the first place, after its first character, where as many braces have
been closed as opened. -/
structure Encloses (text token : List Char) : Prop where
  front : token <+: text
  nonempty : token ≠ []
  even : surplus token = 0
  first : ∀ before, before <+: token → before ≠ [] → before ≠ token → surplus before ≠ 0

/-- What follows the brace that closes one opened before the text, `depth` more being open. -/
def afterClose? (depth : Nat) : List Char → Option (List Char)
  | [] => none
  | c :: rest =>
    if c = '}' ∧ depth = 0 then some rest else afterClose? (depth + weight c).toNat rest

@[simp] theorem weight_open : weight '{' = 1 := rfl

@[simp] theorem weight_close : weight '}' = -1 := rfl

@[simp] theorem surplus_nil : surplus [] = 0 := rfl

@[simp] theorem surplus_cons (c : Char) (text : List Char) :
    surplus (c :: text) = weight c + surplus text := by
  unfold surplus weight
  by_cases opened : c = '{'
  · subst opened
    simp
    omega
  · by_cases closed : c = '}'
    · subst closed
      simp
      omega
    · simp [opened, closed]

@[simp] theorem surplus_append (text rest : List Char) :
    surplus (text ++ rest) = surplus text + surplus rest := by
  induction text with
  | nil => simp
  | cons c text ih => rw [List.cons_append, surplus_cons, surplus_cons, ih]; omega

theorem surplus_eq_zero {text : List Char} (plain : ∀ c ∈ text, c ≠ '{' ∧ c ≠ '}') :
    surplus text = 0 := by
  simp [surplus, List.count_eq_zero.2 fun member => (plain _ member).1 rfl,
    List.count_eq_zero.2 fun member => (plain _ member).2 rfl]

theorem above_start {depth : Int} {text : List Char} (above : Above depth text) : 0 ≤ depth := by
  simpa using above [] List.nil_prefix

theorem not_above_close {text : List Char} : ¬ Above ((0 : Nat) + weight '}') text :=
  fun above => absurd (above_start above) (by decide)

theorem above_nil_iff {depth : Int} : Above depth [] ↔ 0 ≤ depth := by
  simp [Above]

theorem above_cons_iff {depth : Int} {c : Char} {text : List Char} :
    Above depth (c :: text) ↔ 0 ≤ depth ∧ Above (depth + weight c) text := by
  constructor
  · intro above
    refine ⟨above_start above, fun before front => ?_⟩
    have bound := above (c :: before) (List.cons_prefix_cons.2 ⟨rfl, front⟩)
    rw [surplus_cons] at bound
    omega
  · rintro ⟨start, above⟩ before front
    rcases List.prefix_cons_iff.1 front with rfl | ⟨inner, rfl, inside⟩
    · simpa using start
    · have bound := above inner inside
      rw [surplus_cons]
      omega

theorem closes_nil_iff {depth : Int} : Closes depth [] ↔ depth = 0 := by
  constructor
  · rintro ⟨_, total⟩
    rw [surplus_nil] at total
    omega
  · rintro rfl
    exact ⟨above_nil_iff.2 (Int.le_refl 0), rfl⟩

theorem closes_cons_iff {depth : Int} {c : Char} {text : List Char} :
    Closes depth (c :: text) ↔ 0 ≤ depth ∧ Closes (depth + weight c) text := by
  constructor
  · rintro ⟨above, total⟩
    obtain ⟨start, above⟩ := above_cons_iff.1 above
    rw [surplus_cons] at total
    exact ⟨start, above, by omega⟩
  · rintro ⟨start, above, total⟩
    refine ⟨above_cons_iff.2 ⟨start, above⟩, ?_⟩
    rw [surplus_cons]
    omega

theorem weight_of_plain {c : Char} (plain : c ≠ '{' ∧ c ≠ '}') : weight c = 0 := by
  rw [weight, if_neg plain.1, if_neg plain.2]

/-- Short of the closing brace no more braces are closed than are open. -/
theorem toNat_depth {depth : Nat} {c : Char} (unclosed : ¬ (c = '}' ∧ depth = 0)) :
    ((depth + weight c).toNat : Int) = depth + weight c := by
  refine Int.toNat_of_nonneg ?_
  unfold weight
  split
  · omega
  · split
    · next closed =>
      have positive : depth ≠ 0 := fun zero => unclosed ⟨closed, zero⟩
      omega
    · omega

theorem afterClose?_open (depth : Nat) (rest : List Char) :
    afterClose? depth ('{' :: rest) = afterClose? (depth + 1) rest := by
  rw [afterClose?, if_neg fun stop => absurd stop.1 (by decide)]
  rfl

theorem afterClose?_close (depth : Nat) (rest : List Char) :
    afterClose? (depth + 1) ('}' :: rest) = afterClose? depth rest := by
  rw [afterClose?, if_neg fun stop => absurd stop.2 (Nat.succ_ne_zero depth)]
  have shallower : ((depth + 1 : Nat) : Int) + weight '}' = depth := by
    rw [weight_close]
    omega
  rw [shallower, Int.toNat_natCast]

theorem afterClose?_plain {c : Char} (plain : c ≠ '{' ∧ c ≠ '}') (depth : Nat)
    (rest : List Char) : afterClose? depth (c :: rest) = afterClose? depth rest := by
  rw [afterClose?, if_neg fun stop => plain.2 stop.1, weight_of_plain plain]
  rfl

theorem afterClose?_append {text : List Char} (plain : ∀ c ∈ text, c ≠ '{' ∧ c ≠ '}')
    (depth : Nat) (rest : List Char) : afterClose? depth (text ++ rest) = afterClose? depth rest := by
  induction text with
  | nil => rfl
  | cons c text ih =>
    rw [List.cons_append, afterClose?_plain (plain c List.mem_cons_self)]
    exact ih fun d member => plain d (List.mem_cons_of_mem _ member)

/-- A text that reaches the closing brace begins with it or goes on to it. -/
theorem exists_closes_cons_iff {depth : Int} {c : Char} {text rest : List Char} :
    (∃ inside, c :: text = inside ++ '}' :: rest ∧ Closes depth inside) ↔
      c = '}' ∧ depth = 0 ∧ text = rest ∨
        0 ≤ depth ∧ ∃ inside, text = inside ++ '}' :: rest ∧ Closes (depth + weight c) inside := by
  constructor
  · rintro ⟨inside, split, closes⟩
    cases inside with
    | nil =>
      cases split
      exact .inl ⟨rfl, closes_nil_iff.1 closes, rfl⟩
    | cons d inside =>
      cases split
      obtain ⟨start, closes⟩ := closes_cons_iff.1 closes
      exact .inr ⟨start, inside, rfl, closes⟩
  · rintro (⟨rfl, zero, rfl⟩ | ⟨start, inside, rfl, closes⟩)
    · exact ⟨[], rfl, closes_nil_iff.2 zero⟩
    · exact ⟨c :: inside, rfl, closes_cons_iff.2 ⟨start, closes⟩⟩

theorem afterClose?_eq_some_iff {depth : Nat} {text rest : List Char} :
    afterClose? depth text = some rest ↔
      ∃ inside, text = inside ++ '}' :: rest ∧ Closes depth inside := by
  induction text generalizing depth with
  | nil => simp [afterClose?]
  | cons c text ih =>
    rw [exists_closes_cons_iff, afterClose?]
    by_cases stop : c = '}' ∧ depth = 0
    · obtain ⟨rfl, rfl⟩ := stop
      rw [if_pos ⟨rfl, rfl⟩]
      constructor
      · exact fun same => .inl ⟨rfl, rfl, Option.some.inj same⟩
      · rintro (⟨_, _, same⟩ | ⟨_, _, _, closes⟩)
        · exact congrArg some same
        · exact absurd closes.above not_above_close
    · rw [if_neg stop, ih, toNat_depth stop]
      constructor
      · exact fun closes => .inr ⟨Int.natCast_nonneg depth, closes⟩
      · rintro (⟨closed, zero, _⟩ | ⟨_, closes⟩)
        · exact absurd ⟨closed, Int.ofNat_eq_zero.1 zero⟩ stop
        · exact closes

theorem afterClose?_eq_none_iff {depth : Nat} {text : List Char} :
    afterClose? depth text = none ↔ Above depth text := by
  induction text generalizing depth with
  | nil => simp [afterClose?, above_nil_iff]
  | cons c text ih =>
    rw [above_cons_iff, afterClose?]
    by_cases stop : c = '}' ∧ depth = 0
    · obtain ⟨rfl, rfl⟩ := stop
      rw [if_pos ⟨rfl, rfl⟩]
      exact ⟨nofun, fun above => absurd above.2 not_above_close⟩
    · rw [if_neg stop, ih, toNat_depth stop]
      exact ⟨fun above => ⟨Int.natCast_nonneg depth, above⟩, fun above => above.2⟩

theorem encloses_of_closes {inside : List Char} (closes : Closes 0 inside) (rest : List Char) :
    Encloses ('{' :: inside ++ '}' :: rest) ('{' :: inside ++ ['}']) where
  front := ⟨rest, by simp⟩
  nonempty := List.cons_ne_nil _ _
  even := by simp [closes.total]
  first before front nonempty proper := by
    rcases List.prefix_cons_iff.1 front with rfl | ⟨inner, rfl, within⟩
    · exact absurd rfl nonempty
    rcases List.prefix_concat_iff.1 within with rfl | within
    · exact absurd rfl proper
    · have bound := closes.above inner within
      rw [surplus_cons, weight_open]
      omega

/-- No two tokens are enclosed by the same text. -/
theorem Encloses.unique {text left right : List Char} (first : Encloses text left)
    (second : Encloses text right) : left = right := by
  rcases List.prefix_or_prefix_of_prefix first.front second.front with front | front
  · exact Classical.byContradiction fun other =>
      second.first left front first.nonempty other first.even
  · exact Classical.byContradiction fun other =>
      first.first right front second.nonempty (Ne.symm other) second.even

theorem encloses_iff {text token : List Char} :
    Encloses ('{' :: text) token ↔
      ∃ rest, afterClose? 0 text = some rest ∧ '{' :: text = token ++ rest := by
  constructor
  · intro encloses
    cases closed : afterClose? 0 text with
    | none =>
      have above := afterClose?_eq_none_iff.1 closed
      obtain rfl | ⟨inner, rfl, front⟩ := List.prefix_cons_iff.1 encloses.front
      · exact absurd rfl encloses.nonempty
      · have bound := above inner front
        have even := encloses.even
        rw [surplus_cons, weight_open] at even
        omega
    | some rest =>
      obtain ⟨inside, rfl, closes⟩ := afterClose?_eq_some_iff.1 closed
      rw [encloses.unique (encloses_of_closes closes rest)]
      exact ⟨rest, rfl, by simp⟩
  · rintro ⟨rest, closed, split⟩
    obtain ⟨inside, rfl, closes⟩ := afterClose?_eq_some_iff.1 closed
    have same : token ++ rest = ('{' :: inside ++ ['}']) ++ rest := by simp [← split]
    exact List.append_cancel_right same ▸ encloses_of_closes closes rest

end Brace

open Brace

theorem Brace.afterClose?_reference {text name rest : List Char}
    (taken : takeReference? text = some (name, rest)) (depth : Nat) :
    afterClose? depth ('{' :: text) = afterClose? depth rest := by
  obtain ⟨isName, rfl⟩ := takeReference?_eq_some_iff.1 taken
  rw [afterClose?_open, afterClose?_append isName.plain, afterClose?_close]

/-- The reader of branches ends where the braces are closed by counting. -/
theorem BranchReader.rest_read (reader : BranchReader) (text : List Char) :
    (reader.read text).map Prod.snd = afterClose? reader.depth text := by
  fun_induction read reader text
  case case1 => rfl
  case case2 c rest stop => rw [afterClose?, if_pos stop]; rfl
  case case3 reader c rest _ bar ih =>
    rw [ih, bar.1, afterClose?_plain (by decide), depth_endBranch]
  case case4 reader c rest _ _ colon ih =>
    rw [ih, colon.1, afterClose?_plain (by decide), depth_endValue]
  case case5 reader rest name after taken _ _ _ ih =>
    rw [ih, afterClose?_reference taken, depth_addReference]
  case case6 reader rest _ _ _ _ ih => rw [ih, afterClose?_open, depth_openBrace]
  case case7 reader rest stop _ _ _ ih =>
    have inside : reader.depth ≠ 0 := fun zero => stop ⟨rfl, zero⟩
    obtain ⟨depth, deeper⟩ := Nat.exists_eq_succ_of_ne_zero inside
    rw [ih, depth_closeBrace, deeper, afterClose?_close, Nat.succ_sub_one]
  case case8 reader c rest _ _ _ other closing ih =>
    rw [ih, afterClose?_plain ⟨other, closing⟩, depth_addChar]

end CommandSynthesis
