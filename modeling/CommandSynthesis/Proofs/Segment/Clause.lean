import CommandSynthesis.Proofs.Segment.Brace
import CommandSynthesis.Proofs.Segment.Parts

set_option autoImplicit false

/-!
# Clauses

A clause is what stands between two bars of a conditional, or between a bar and the brace that
closes the conditional. It has a case if a colon stands outside its braces with no reference before
it. The case is the text before the first such colon.
-/

namespace CommandSynthesis

open Brace

/-- A character is met nowhere in the text but inside braces, `depth` being open before it. -/
def Brace.Sheltered (c : Char) (depth : Int) (text : List Char) : Prop :=
  ∀ before after, text = before ++ c :: after → surplus before ≠ -depth

/-- The text is the rest of a clause before which `depth` braces are open: it closes them and its
own, and every bar in it is inside braces. -/
structure IsClause (depth : Int) (text : List Char) : Prop where
  closes : Closes depth text
  bars : Sheltered '|' depth text

/-- The text, before which `depth` braces are open, goes on with the rest of a case, the first colon
outside braces and a body. -/
structure EndsCase (depth : Int) (text value body : List Char) : Prop where
  split : text = value ++ ':' :: body
  outside : surplus value = -depth
  plain : ¬ HoldsReference value
  first : Sheltered ':' depth value

/-- The clause has a case and a body. -/
def HasCase (clause value body : List Char) : Prop :=
  EndsCase 0 clause value body

/-- The rest of the case and the body, from left to right. -/
def splitCase? (depth : Nat) : List Char → Option (List Char × List Char)
  | [] => none
  | c :: rest =>
    if c = ':' ∧ depth = 0 then some ([], rest)
    else if c = '{' ∧ takeReference? rest ≠ none then none
    else (splitCase? (depth + weight c).toNat rest).map fun (value, body) => (c :: value, body)

namespace Brace

theorem sheltered_nil (c : Char) (depth : Int) : Sheltered c depth [] := by
  intro before after split
  simp at split

theorem sheltered_cons_iff {c d : Char} {depth : Int} {text : List Char} :
    Sheltered c depth (d :: text) ↔
      ¬ (d = c ∧ depth = 0) ∧ Sheltered c (depth + weight d) text := by
  constructor
  · intro sheltered
    constructor
    · rintro ⟨rfl, rfl⟩
      exact sheltered [] text rfl rfl
    · rintro before after rfl level
      refine sheltered (d :: before) after rfl ?_
      rw [surplus_cons, level]
      omega
  · rintro ⟨outside, sheltered⟩ before after split level
    cases before with
    | nil =>
      cases split
      rw [surplus_nil] at level
      exact outside ⟨rfl, by omega⟩
    | cons e before =>
      cases split
      rw [surplus_cons] at level
      exact sheltered before after rfl (by omega)

end Brace

theorem isClause_nil_iff {depth : Int} : IsClause depth [] ↔ depth = 0 :=
  ⟨fun clause => closes_nil_iff.1 clause.closes,
    fun closed => ⟨closes_nil_iff.2 closed, sheltered_nil _ _⟩⟩

theorem isClause_cons_iff {depth : Int} {c : Char} {text : List Char} :
    IsClause depth (c :: text) ↔
      0 ≤ depth ∧ ¬ (c = '|' ∧ depth = 0) ∧ IsClause (depth + weight c) text := by
  constructor
  · rintro ⟨closes, bars⟩
    obtain ⟨start, closes⟩ := closes_cons_iff.1 closes
    obtain ⟨outside, bars⟩ := sheltered_cons_iff.1 bars
    exact ⟨start, outside, closes, bars⟩
  · rintro ⟨start, outside, closes, bars⟩
    exact ⟨closes_cons_iff.2 ⟨start, closes⟩, sheltered_cons_iff.2 ⟨outside, bars⟩⟩

instance IsClause.decidable (depth : Int) (text : List Char) : Decidable (IsClause depth text) :=
  match text with
  | [] => decidable_of_iff _ isClause_nil_iff.symm
  | c :: rest =>
    have := IsClause.decidable (depth + weight c) rest
    decidable_of_iff _ isClause_cons_iff.symm

theorem IsClause.level {c : Char} {depth : Int} {text : List Char}
    (clause : IsClause depth (c :: text)) : 0 ≤ depth + weight c :=
  above_start (isClause_cons_iff.1 clause).2.2.closes.above

theorem IsClause.of_append {depth : Int} {text rest : List Char}
    (clause : IsClause depth (text ++ rest)) : IsClause (depth + surplus text) rest := by
  induction text generalizing depth with
  | nil => simpa using clause
  | cons c text ih =>
    have inner := ih (isClause_cons_iff.1 clause).2.2
    rwa [surplus_cons, ← Int.add_assoc]

/-- A reference in a clause leaves as many braces open as before it. -/
theorem IsClause.of_reference {depth : Int} {text name after : List Char}
    (clause : IsClause depth ('{' :: text)) (taken : takeReference? text = some (name, after)) :
    IsClause depth after := by
  obtain ⟨isName, rfl⟩ := takeReference?_eq_some_iff.1 taken
  have split : '{' :: (name ++ '}' :: after) = ('{' :: name ++ ['}']) ++ after := by simp
  have inner := IsClause.of_append (split ▸ clause)
  have level : surplus ('{' :: name ++ ['}']) = 0 := by
    rw [surplus_append, surplus_cons, surplus_eq_zero isName.plain]
    rfl
  rwa [level, Int.add_zero] at inner

theorem IsClause.mem_close {depth : Nat} {text : List Char} (clause : IsClause depth ('{' :: text)) :
    '}' ∈ text := by
  have total := (isClause_cons_iff.1 clause).2.2.closes.total
  refine Classical.byContradiction fun missing => ?_
  rw [surplus, List.count_eq_zero.2 missing, weight_open] at total
  omega

theorem takeReference?_colon_eq_none_iff {text rest : List Char} :
    takeReference? (text ++ ':' :: rest) = none ↔ takeReference? text = none := by
  have stop : ∀ c, (':' :: rest).head? = some c → isNameChar c = false ∧ c ≠ '}' := by
    rintro c ⟨⟩
    decide
  rw [takeReference?_append (.inr stop), Option.map_eq_none_iff]

theorem endsCase_cons_iff {c : Char} {depth : Int} {text value body : List Char} :
    EndsCase depth (c :: text) value body ↔
      c = ':' ∧ depth = 0 ∧ value = [] ∧ body = text ∨
        ¬ (c = ':' ∧ depth = 0) ∧ (c = '{' → takeReference? text = none) ∧
          ∃ inner, value = c :: inner ∧ EndsCase (depth + weight c) text inner body := by
  constructor
  · rintro ⟨split, outside, plain, first⟩
    cases value with
    | nil =>
      cases split
      rw [surplus_nil] at outside
      exact .inl ⟨rfl, by omega, rfl, rfl⟩
    | cons d inner =>
      cases split
      obtain ⟨other, first⟩ := sheltered_cons_iff.1 first
      rw [holdsReference_cons_iff, not_or] at plain
      rw [surplus_cons] at outside
      refine .inr ⟨other, fun brace => ?_, inner, rfl, rfl, by omega, plain.2, first⟩
      exact takeReference?_colon_eq_none_iff.2
        (Classical.not_not.1 fun taken => plain.1 ⟨brace, taken⟩)
  · rintro (⟨rfl, rfl, rfl, rfl⟩ | ⟨other, missing, inner, rfl, rfl, outside, plain, first⟩)
    · exact ⟨rfl, rfl, not_holdsReference_nil, sheltered_nil _ _⟩
    · refine ⟨rfl, ?_, ?_, sheltered_cons_iff.2 ⟨other, first⟩⟩
      · rw [surplus_cons]
        omega
      · rw [holdsReference_cons_iff]
        rintro (⟨brace, taken⟩ | inside)
        · exact taken (takeReference?_colon_eq_none_iff.1 (missing brace))
        · exact plain inside

/-- The case of a clause is found from left to right. -/
theorem splitCase?_eq_some_iff {depth : Nat} {text value body : List Char}
    (clause : IsClause depth text) :
    splitCase? depth text = some (value, body) ↔ EndsCase depth text value body := by
  induction text generalizing depth value with
  | nil => exact ⟨nofun, fun ends => absurd ends.split (by simp)⟩
  | cons c text ih =>
    have level := Int.toNat_of_nonneg clause.level
    have inner := (isClause_cons_iff.1 clause).2.2
    rw [← level] at inner
    rw [endsCase_cons_iff, ← level, splitCase?]
    by_cases colon : c = ':' ∧ depth = 0
    · obtain ⟨rfl, rfl⟩ := colon
      simp [eq_comm]
    · have outside : ¬ (c = ':' ∧ (depth : Int) = 0) := by rwa [Int.natCast_eq_zero]
      by_cases reference : c = '{' ∧ takeReference? text ≠ none
      · rw [if_neg colon, if_pos reference]
        refine ⟨nofun, ?_⟩
        rintro (⟨rfl, zero, _⟩ | ⟨_, missing, _⟩)
        · exact absurd ⟨rfl, zero⟩ outside
        · exact absurd (missing reference.1) reference.2
      · have missing : c = '{' → takeReference? text = none :=
          fun brace => Classical.not_not.1 fun taken => reference ⟨brace, taken⟩
        rw [if_neg colon, if_neg reference]
        constructor
        · intro found
          obtain ⟨⟨rest, _⟩, found, same⟩ := Option.map_eq_some_iff.1 found
          cases same
          exact .inr ⟨outside, missing, rest, rfl, (ih inner).1 found⟩
        · rintro (⟨rfl, zero, _⟩ | ⟨_, _, rest, rfl, ends⟩)
          · exact absurd ⟨rfl, zero⟩ outside
          · rw [(ih inner).2 ends]
            rfl

end CommandSynthesis
