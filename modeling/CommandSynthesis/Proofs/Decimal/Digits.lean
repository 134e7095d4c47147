import CommandSynthesis.Decimal.Digits
import Mathlib.Algebra.Group.Nat.Defs

set_option autoImplicit false

/-!
# Digits in a text

Where a number that was written stands at the front of a text, its digits are found again: they go
as far as digits go, or as far as their number is known.
-/

namespace CommandSynthesis.Decimal

/-- No digit begins the text. -/
def EndsDigits (text : List Char) : Prop :=
  ∀ c, text.head? = some c → c.isDigit = false

theorem digits_of_lt {n : Nat} (small : n < 10) : digits n = [digitChar n] := by
  rw [digits, if_pos small]

theorem digits_of_le {n : Nat} (large : 10 ≤ n) :
    digits n = digits (n / 10) ++ [digitChar (n % 10)] := by
  rw [digits, if_neg (Nat.not_lt.2 large)]

theorem digits_ne_nil (n : Nat) : digits n ≠ [] := by
  rcases Nat.lt_or_ge n 10 with small | large
  · rw [digits_of_lt small]
    exact List.cons_ne_nil _ _
  · rw [digits_of_le large]
    exact List.concat_ne_nil _ _

theorem isDigit_of_mem_digits {n : Nat} {c : Char} (member : c ∈ digits n) :
    c.isDigit = true := by
  fun_induction digits n with
  | case1 n small =>
    rw [List.mem_singleton.1 member]
    exact isDigit_digitChar small
  | case2 n _ ih =>
    rcases List.mem_append.1 member with member | member
    · exact ih member
    · rw [List.mem_singleton.1 member]
      exact isDigit_digitChar (Nat.mod_lt n (by decide))

/-- Only the number zero is written with a zero in front. -/
theorem eq_nil_of_digits_eq {n : Nat} {rest : List Char} (zero : digits n = '0' :: rest) :
    rest = [] := by
  fun_induction digits n generalizing rest with
  | case1 n small => exact (List.cons.inj zero).2.symm
  | case2 n large ih =>
    rcases List.append_eq_cons_iff.1 zero with ⟨none, _⟩ | ⟨front, split, _⟩
    · exact absurd none (digits_ne_nil _)
    · rw [ih split] at split
      have same := value_digits (n / 10)
      rw [split] at same
      have zero : n / 10 = 0 := same.symm
      omega

theorem length_digits_le {n width : Nat} (positive : 0 < width) (bound : n < 10 ^ width) :
    (digits n).length ≤ width := by
  fun_induction digits n generalizing width with
  | case1 n small => exact positive
  | case2 n large ih =>
    rw [List.length_append, List.length_singleton]
    rcases width with _ | _ | width
    · cases positive
    · omega
    · have shorter : n / 10 < 10 ^ (width + 1) :=
        Nat.div_lt_of_lt_mul (by rw [Nat.pow_succ, Nat.mul_comm] at bound; exact bound)
      have := ih (Nat.succ_pos width) shorter
      omega

theorem spanDigits_run {run : List Char} (all : ∀ c ∈ run, c.isDigit = true) (rest : List Char) :
    spanDigits (run ++ rest) = (run ++ (spanDigits rest).1, (spanDigits rest).2) := by
  induction run with
  | nil => rfl
  | cons c run ih =>
    have tail := ih fun d member => all d (List.mem_cons_of_mem c member)
    rw [List.cons_append, spanDigits, if_pos (all c List.mem_cons_self), tail]
    rfl

theorem spanDigits_append {run rest : List Char} (all : ∀ c ∈ run, c.isDigit = true)
    (stop : EndsDigits rest) : spanDigits (run ++ rest) = (run, rest) := by
  have none : spanDigits rest = ([], rest) := by
    cases rest with
    | nil => rfl
    | cons c rest => simp [spanDigits, stop c rfl]
  rw [spanDigits_run all, none, List.append_nil]

theorem isDigit_of_mem_padded {width n : Nat} {c : Char} (member : c ∈ padded width n) :
    c.isDigit = true := by
  rcases List.mem_append.1 member with member | member
  · rw [(List.mem_replicate.1 member).2]
    decide
  · exact isDigit_of_mem_digits member

theorem length_padded {width n : Nat} (positive : 0 < width) (bound : n < 10 ^ width) :
    (padded width n).length = width := by
  have := length_digits_le positive bound
  rw [padded, List.length_append, List.length_replicate]
  omega

theorem value_padded (width n : Nat) : value (padded width n) = n := by
  have zeros (count : Nat) (text : List Char) :
      value (List.replicate count '0' ++ text) = value text := by
    induction count with
    | zero => rfl
    | succ count ih => exact ih
  rw [padded, zeros, value_digits]

theorem le_value_append (run text : List Char) : value run ≤ value (run ++ text) := by
  induction text generalizing run with
  | nil => simp
  | cons c text ih =>
    have step : value run ≤ value (run ++ [c]) := by
      simp only [value, List.foldl_append, List.foldl_cons, List.foldl_nil]
      omega
    have more := ih (run ++ [c])
    rw [List.append_assoc, List.singleton_append] at more
    exact Nat.le_trans step more

end CommandSynthesis.Decimal
