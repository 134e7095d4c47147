import CommandSynthesis.Proofs.Decimal.Digits
import CommandSynthesis.Toml.Scalar

set_option autoImplicit false

/-!
# Natural numbers are read back

The digits of a number, with a line end behind them, are neither a moment nor a real, and as an
integer they give the number again.
-/

namespace CommandSynthesis.Toml

open Decimal (digits)

section Runs

variable {run : List Char} (all : ∀ c ∈ run, c.isDigit = true) (rest : List Char)

include all

/-! ## No moment -/

/-- A field takes some of the digits and leaves the others. -/
theorem exists_of_readField {count low high value : Nat} {after : List Char}
    (read : readField count low high (run ++ '\n' :: rest) = some (value, after)) :
    ∃ left, (∀ c ∈ left, c.isDigit = true) ∧ after = left ++ '\n' :: rest := by
  rw [readField] at read
  split at read
  · next fits =>
    cases read
    refine ⟨run.drop count, fun c member => all c (List.mem_of_mem_drop member), ?_⟩
    refine List.drop_append_of_le_length (Nat.le_of_not_lt fun short => ?_)
    have feed : '\n' ∈ (run ++ '\n' :: rest).take count := by
      rw [List.take_append]
      refine List.mem_append_right _ ?_
      obtain ⟨more, eq⟩ := Nat.exists_eq_add_of_lt short
      rw [show count - run.length = more + 1 by omega]
      exact List.mem_cons_self
    exact absurd (List.all_eq_true.1 fits.2.1 _ feed) (by decide)
  · cases read

theorem readMark_run (mark : Char) (noDigit : mark.isDigit = false) (feed : mark ≠ '\n') :
    readMark mark (run ++ '\n' :: rest) = none := by
  cases run with
  | nil => exact if_neg feed.symm
  | cons c run =>
    refine if_neg fun same => ?_
    have digit := all c List.mem_cons_self
    rw [same, noDigit] at digit
    cases digit

theorem readMoment_run : readMoment (run ++ '\n' :: rest) = none := by
  have noDate : readDate (run ++ '\n' :: rest) = none := by
    unfold readDate
    cases read : readField 4 0 9999 (run ++ '\n' :: rest) with
    | none => rfl
    | some found =>
      obtain ⟨left, digits, after⟩ := exists_of_readField all rest read
      simp [after, readMark_run digits rest '-' (by decide) (by decide)]
  have noTime : readTime (run ++ '\n' :: rest) = none := by
    unfold readTime
    cases read : readField 2 0 23 (run ++ '\n' :: rest) with
    | none => rfl
    | some found =>
      obtain ⟨left, digits, after⟩ := exists_of_readField all rest read
      simp [after, readMark_run digits rest ':' (by decide) (by decide)]
  rw [readMoment, noDate, noTime]
  rfl

/-! ## Digits -/

theorem moreDigits_run :
    moreDigits Char.isDigit (run ++ '\n' :: rest) = some (run, '\n' :: rest) := by
  induction run with
  | nil => rfl
  | cons c run ih =>
    have digit := all c List.mem_cons_self
    have tail := ih fun d member => all d (List.mem_cons_of_mem c member)
    rw [List.cons_append, moreDigits]
    · rw [if_pos digit, tail]
      rfl
    · rintro _ _ rfl _
      cases digit

theorem readDigits_run (filled : run ≠ []) :
    readDigits Char.isDigit (run ++ '\n' :: rest) = some (run, '\n' :: rest) := by
  obtain ⟨c, tail, rfl⟩ := List.exists_cons_of_ne_nil filled
  have found := moreDigits_run all rest
  rw [List.cons_append] at found
  rw [List.cons_append, readDigits, if_pos (all c List.mem_cons_self), found]

theorem isDigit_front (filled : run ≠ []) {c : Char} {more : List Char}
    (begins : run ++ '\n' :: rest = c :: more) : c.isDigit = true := by
  obtain ⟨first, tail, rfl⟩ := List.exists_cons_of_ne_nil filled
  exact (List.cons.inj begins).1 ▸ all first List.mem_cons_self

theorem readSign_run (filled : run ≠ []) :
    readSign (run ++ '\n' :: rest) = (false, run ++ '\n' :: rest) := by
  rw [readSign]
  · exact fun _ begins => absurd (isDigit_front all rest filled begins) (by decide)
  · exact fun _ begins => absurd (isDigit_front all rest filled begins) (by decide)

theorem readSpecial_run (filled : run ≠ []) : readSpecial (run ++ '\n' :: rest) = none := by
  rw [readSpecial]
  · exact fun _ begins => absurd (isDigit_front all rest filled begins) (by decide)
  · exact fun _ begins => absurd (isDigit_front all rest filled begins) (by decide)

end Runs

/-! ## Numbers -/

variable (n : Nat) (rest : List Char)

/-- The digits of a number have no zero in front. -/
theorem eq_feed_of_digits_zero {c : Char} {more : List Char}
    (zero : digits n ++ '\n' :: rest = '0' :: c :: more) : c = '\n' := by
  rcases List.append_eq_cons_iff.1 zero with ⟨none, _⟩ | ⟨tail, first, left⟩
  · exact absurd none (Decimal.digits_ne_nil n)
  · rw [Decimal.eq_nil_of_digits_eq first] at left
    exact (List.cons.inj left).1

theorem readWhole_digits :
    readWhole (digits n ++ '\n' :: rest) = some (digits n, '\n' :: rest) := by
  by_cases zero : ∃ tail, digits n = '0' :: tail
  · obtain ⟨tail, zero⟩ := zero
    rw [zero, Decimal.eq_nil_of_digits_eq zero]
    rfl
  · rw [readWhole]
    · exact readDigits_run (fun _ => Decimal.isDigit_of_mem_digits) rest (Decimal.digits_ne_nil n)
    · intro after same
      rcases List.append_eq_cons_iff.1 same with ⟨none, _⟩ | ⟨tail, first, _⟩
      · exact Decimal.digits_ne_nil n none
      · exact zero ⟨tail, first⟩

theorem readReal_digits : readReal (digits n ++ '\n' :: rest) = none := by
  have all := fun c => Decimal.isDigit_of_mem_digits (n := n) (c := c)
  have filled := Decimal.digits_ne_nil n
  simp [readReal, readSign_run all rest filled, readSpecial_run all rest filled, readWhole_digits,
    readFraction, readExponent]

theorem signed64?_natural {n : Nat} (fits : n < 0x8000000000000000) :
    signed64? n = some (.integer n) := by
  have inside : -0x8000000000000000 ≤ (n : Int) ∧ (n : Int) < 0x8000000000000000 := by omega
  rw [signed64?, if_pos inside]

/-- An integer that is not written to another base. -/
theorem readInteger_decimal {text rest after run : List Char} {negative : Bool}
    (noBase : ∀ c more, text = '0' :: c :: more → c = '\n')
    (sign : readSign text = (negative, rest)) (whole : readWhole rest = some (run, after)) :
    readInteger text =
      (signed64? (if negative then -(Decimal.value run : Int) else Decimal.value run)).map
        fun value => (value, after) := by
  rw [readInteger]
  · rw [sign]
    dsimp only
    rw [whole]
    simp only [Option.bind_eq_bind, Option.bind_some]
    cases signed64? (if negative then -(Decimal.value run : Int) else Decimal.value run) <;> rfl
  all_goals
    intro more zero
    exact absurd (noBase _ more zero) (by decide)

theorem readInteger_digits {n : Nat} (fits : n < 0x8000000000000000) :
    readInteger (digits n ++ '\n' :: rest) = some (.integer n, '\n' :: rest) := by
  have sign := readSign_run (fun c => Decimal.isDigit_of_mem_digits) rest (Decimal.digits_ne_nil n)
  rw [readInteger_decimal (fun _ _ => eq_feed_of_digits_zero n rest) sign (readWhole_digits n rest),
    if_neg Bool.false_ne_true, Decimal.value_digits, signed64?_natural fits, Option.map_some]

theorem readScalar_digits {n : Nat} (fits : n < 0x8000000000000000) :
    readScalar (digits n ++ '\n' :: rest) = some (.integer n, '\n' :: rest) := by
  rw [readScalar, readMoment_run (fun _ => Decimal.isDigit_of_mem_digits) rest, readReal_digits,
    readInteger_digits rest fits]
  rfl

end CommandSynthesis.Toml
