import CommandSynthesis.Proofs.Decimal.Digits
import CommandSynthesis.Proofs.Text.Blank
import CommandSynthesis.Validator.Checks
import Mathlib.Data.Nat.Digits.Defs

set_option autoImplicit false

/-!
# Numbers in a range

The numerals of integers, of any length and with any number of zeros in front, and the verdicts of
the check of a number: it accepts exactly the numerals of the numbers in the range, and tells those
of other numbers of 64 bits from all other texts.
-/

namespace CommandSynthesis

namespace Decimal

/-- A run of digits, at least one. -/
def IsRun (run : List Char) : Prop :=
  run ≠ [] ∧ ∀ c ∈ run, c.isDigit = true

/-- The number that digits stand for by their places, the last being the place of the ones. -/
def placeValue (run : List Char) : Nat :=
  Nat.ofDigits 10 (run.map digitValue).reverse

/-- The text is a numeral of the integer: a sign or none, and a run of digits. -/
inductive Denotes : List Char → Int → Prop where
  | plain {run : List Char} : IsRun run → Denotes run (placeValue run)
  | plus {run : List Char} : IsRun run → Denotes ('+' :: run) (placeValue run)
  | minus {run : List Char} : IsRun run → Denotes ('-' :: run) (-(placeValue run : Int))

theorem value_eq_placeValue (run : List Char) : value run = placeValue run := by
  have grows (n : Nat) : run.foldl (fun n c => 10 * n + digitValue c) n =
      placeValue run + 10 ^ run.length * n := by
    induction run generalizing n with
    | nil => simp [placeValue]
    | cons c run ih =>
      rw [List.foldl_cons, ih, placeValue, placeValue, List.map_cons, List.reverse_cons,
        Nat.ofDigits_append, Nat.ofDigits_singleton, List.length_reverse, List.length_map,
        List.length_cons, Nat.pow_succ]
      ring
  rw [value, grows, Nat.mul_zero, Nat.add_zero]

theorem natural?_eq_some_iff {text : List Char} {n : Nat} :
    natural? text = some n ↔ IsRun text ∧ n = placeValue text := by
  unfold natural?
  cases text with
  | nil => simp [IsRun]
  | cons c rest =>
    rw [if_neg (by simp)]
    by_cases digits : (c :: rest).all Char.isDigit = true
    · rw [if_pos digits, Option.some.injEq, value_eq_placeValue, eq_comm]
      exact ⟨fun same => ⟨⟨List.cons_ne_nil c rest, List.all_eq_true.1 digits⟩, same⟩, And.right⟩
    · rw [if_neg digits]
      exact ⟨nofun, fun ⟨run, _⟩ => absurd (List.all_eq_true.2 run.2) digits⟩

theorem IsRun.head_isDigit {c : Char} {rest : List Char} (run : IsRun (c :: rest)) :
    c.isDigit = true :=
  run.2 c List.mem_cons_self

theorem integer?_eq_some_iff {text : List Char} {n : Int} :
    integer? text = some n ↔ Denotes text n := by
  constructor
  · intro found
    unfold integer? at found
    split at found
    all_goals
      obtain ⟨_, cast, rfl⟩ := Option.map_eq_some_iff.1 found
      obtain ⟨magnitude, read, same⟩ := Option.bind_eq_some_iff.1 cast
      cases same
      obtain ⟨run, rfl⟩ := natural?_eq_some_iff.1 read
    · exact .minus run
    · exact .plus run
    · exact .plain run
  · rintro (⟨run⟩ | ⟨run⟩ | ⟨run⟩)
    · have read := natural?_eq_some_iff.2 ⟨run, rfl⟩
      unfold integer?
      split
      · cases run.head_isDigit
      · cases run.head_isDigit
      · rw [read]
        rfl
    · rw [integer?, natural?_eq_some_iff.2 ⟨run, rfl⟩]
      rfl
    · rw [integer?, natural?_eq_some_iff.2 ⟨run, rfl⟩]
      rfl

theorem isRun_digits (n : Nat) : IsRun (digits n) :=
  ⟨digits_ne_nil n, fun _ => isDigit_of_mem_digits⟩

theorem placeValue_digits (n : Nat) : placeValue (digits n) = n := by
  rw [← value_eq_placeValue, value_digits]

theorem denotes_ofInt (n : Int) : Denotes (ofInt n).toList n := by
  cases n with
  | ofNat n =>
    have denoted := Denotes.plain (isRun_digits n)
    rw [placeValue_digits] at denoted
    rwa [ofInt, ofNat, String.toList_ofList]
  | negSucc n =>
    have denoted := Denotes.minus (isRun_digits (n + 1))
    rw [placeValue_digits] at denoted
    have written : (ofInt (.negSucc n)).toList = '-' :: digits (n + 1) := by
      simp [ofInt, ofNat]
    rw [written]
    exact denoted

theorem isBlank_of_isDigit {c : Char} (digit : c.isDigit = true) : Text.isBlank c = false := by
  simp only [Char.isDigit, Bool.and_eq_true, decide_eq_true_eq] at digit
  obtain ⟨above, below⟩ := digit
  have above : 48 ≤ c.toNat := UInt32.le_iff_toNat_le.1 above
  have below : c.toNat ≤ 57 := UInt32.le_iff_toNat_le.1 below
  simp [Text.isBlank, Text.blankRanges, Unicode.CodeRanges.contains]
  omega

theorem Denotes.isTight {text : List Char} {n : Int} (denoted : Denotes text n) :
    Text.IsTight text := by
  have shown : ∀ c ∈ text, Text.isBlank c = false := by
    cases denoted with
    | plain run => exact fun c member => isBlank_of_isDigit (run.2 c member)
    | plus run | minus run =>
      refine List.forall_mem_cons.2 ⟨by decide, fun c member => ?_⟩
      exact isBlank_of_isDigit (run.2 c member)
  exact ⟨fun c head => shown c (List.mem_of_head? head),
    fun c last => shown c (List.mem_of_getLast? last)⟩

end Decimal

namespace Check

open Decimal (Denotes)

/-- Without the blank characters around it, the text is a numeral of the integer. -/
def StandsFor (value : String) (n : Int) : Prop :=
  ∃ core, Text.IsCore core value.toList ∧ Denotes core n

/-- The integer has a signed form of 64 bits. -/
def IsWord (n : Int) : Prop :=
  -2 ^ 63 ≤ n ∧ n ≤ 2 ^ 63 - 1

theorem standsFor_iff {value : String} {n : Int} :
    StandsFor value n ↔ Decimal.integer? (Text.trim value.toList) = some n := by
  rw [Decimal.integer?_eq_some_iff]
  constructor
  · rintro ⟨core, isCore, denoted⟩
    rwa [Text.trim_of_isCore isCore]
  · exact fun denoted => ⟨_, Text.isCore_trim _, denoted⟩

theorem StandsFor.unique {value : String} {m n : Int} (left : StandsFor value m)
    (right : StandsFor value n) : m = n := by
  rw [standsFor_iff] at left right
  exact Option.some.inj (left.symm.trans right)

theorem standsFor_ofInt (n : Int) : StandsFor (Decimal.ofInt n) n :=
  have denoted := Decimal.denotes_ofInt n
  ⟨_, ⟨denoted.isTight, [], [], nofun, nofun, by simp⟩, denoted⟩

theorem number?_eq_some_iff {value : String} {n : Int} :
    number? (Text.trim value.toList) = some n ↔ StandsFor value n ∧ IsWord n := by
  rw [number?, Option.filter_eq_some_iff, standsFor_iff, IsWord]
  simp
  omega

theorem isWord_of_between {low high : Int64} {n : Int} (above : low.toInt ≤ n)
    (below : n ≤ high.toInt) : IsWord n :=
  ⟨low.le_toInt.trans above, below.trans high.toInt_le⟩

/-- What is said of a number out of range. -/
def rangeMessage (low high : Int64) : String :=
  "Must be between " ++ Decimal.ofInt low.toInt ++ " and " ++ Decimal.ofInt high.toInt

theorem prefix_toList_append (first second third last : String) :
    first.toList <+: (first ++ second ++ third ++ last).toList := by
  simp only [String.toList_append, List.append_assoc, List.prefix_append]

theorem rangeMessage_ne (low high : Int64) : rangeMessage low high ≠ "Must be a valid number" := by
  intro same
  have start : "Must be between ".toList <+: (rangeMessage low high).toList :=
    prefix_toList_append "Must be between " (Decimal.ofInt low.toInt) " and "
      (Decimal.ofInt high.toInt)
  rw [same] at start
  revert start
  decide +kernel

theorem number_of_standsFor {value : String} {n : Int} (stands : StandsFor value n)
    (word : IsWord n) (low high : Int64) :
    number value low high =
      if low.toInt ≤ n ∧ n ≤ high.toInt then .accept else .refuse (rangeMessage low high) := by
  simp only [number, number?_eq_some_iff.2 ⟨stands, word⟩]
  rfl

theorem number_of_not_standsFor {value : String}
    (other : ¬ ∃ n, StandsFor value n ∧ IsWord n) (low high : Int64) :
    number value low high = .refuse "Must be a valid number" := by
  have unread : number? (Text.trim value.toList) = none := by
    rw [Option.eq_none_iff_forall_ne_some]
    exact fun n read => other ⟨n, number?_eq_some_iff.1 read⟩
  simp only [number, unread]

/-- The check of a number accepts exactly the numerals of the numbers in the range, whatever stands
around them in blanks. -/
theorem number_valid_iff {value : String} {low high : Int64} :
    (number value low high).valid = true ↔
      ∃ n, StandsFor value n ∧ low.toInt ≤ n ∧ n ≤ high.toInt := by
  by_cases word : ∃ n, StandsFor value n ∧ IsWord n
  · obtain ⟨n, stands, word⟩ := word
    rw [number_of_standsFor stands word]
    by_cases between : low.toInt ≤ n ∧ n ≤ high.toInt
    · rw [if_pos between]
      exact ⟨fun _ => ⟨n, stands, between⟩, fun _ => rfl⟩
    · rw [if_neg between]
      refine ⟨nofun, ?_⟩
      rintro ⟨m, other, bounds⟩
      rw [other.unique stands] at bounds
      exact absurd bounds between
  · rw [number_of_not_standsFor word]
    refine ⟨nofun, ?_⟩
    rintro ⟨n, stands, above, below⟩
    exact absurd ⟨n, stands, isWord_of_between above below⟩ word

/-- A number that is refused is told from other texts by what is said, as far as 64 bits hold it. -/
theorem number_message {value : String} {low high : Int64}
    (refused : (number value low high).valid = false) :
    ((number value low high).message = some (rangeMessage low high) ↔
      ∃ n, StandsFor value n ∧ IsWord n) ∧
    ((number value low high).message = some "Must be a valid number" ↔
      ¬ ∃ n, StandsFor value n ∧ IsWord n) := by
  by_cases word : ∃ n, StandsFor value n ∧ IsWord n
  · obtain ⟨n, stands, isWord⟩ := word
    rw [number_of_standsFor stands isWord] at refused ⊢
    by_cases between : low.toInt ≤ n ∧ n ≤ high.toInt
    · rw [if_pos between] at refused
      cases refused
    · rw [if_neg between]
      refine ⟨⟨fun _ => ⟨n, stands, isWord⟩, fun _ => rfl⟩, fun said => ?_, fun other => ?_⟩
      · exact absurd (Option.some.inj said) (rangeMessage_ne low high)
      · exact absurd ⟨n, stands, isWord⟩ other
  · rw [number_of_not_standsFor word]
    refine ⟨⟨fun said => ?_, fun some => absurd some word⟩, fun _ => word, fun _ => rfl⟩
    exact absurd (Option.some.inj said).symm (rangeMessage_ne low high)

/-- The check of a number is exact. It accepts the numerals of the numbers in the range and nothing
else, and a refused text is said to be out of range exactly when it is a numeral of a number of 64
bits. So every number in the range is accepted as it is written, and an empty range accepts
nothing. -/
theorem number_verdict (value : String) (low high : Int64) :
    ((number value low high).valid = true ↔
      ∃ n, StandsFor value n ∧ low.toInt ≤ n ∧ n ≤ high.toInt) ∧
    ((number value low high).valid = false →
      ((number value low high).message = some (rangeMessage low high) ↔
        ∃ n, StandsFor value n ∧ IsWord n) ∧
      ((number value low high).message = some "Must be a valid number" ↔
        ¬ ∃ n, StandsFor value n ∧ IsWord n)) ∧
    (∀ n : Int, low.toInt ≤ n → n ≤ high.toInt →
      (number (Decimal.ofInt n) low high).valid = true) ∧
    (high < low → (number value low high).valid = false) := by
  refine ⟨number_valid_iff, number_message, fun n above below => ?_, fun empty => ?_⟩
  · exact number_valid_iff.2 ⟨n, standsFor_ofInt n, above, below⟩
  · rw [← Bool.not_eq_true, number_valid_iff]
    rintro ⟨n, -, above, below⟩
    exact absurd (above.trans below) (Int.not_le.2 (Int64.lt_iff_toInt_lt.1 empty))

/-- The number after the last one of 64 bits is no number, and the last one is, as far as the upper
bound. -/
theorem number_verdict_limits :
    (number "\t+009223372036854775808\u3000" 0 Int64.maxValue).valid = false ∧
      ((number "\t+009223372036854775808\u3000" 0 Int64.maxValue).message =
          some "Must be a valid number" ↔
        ¬ ∃ n, StandsFor "\t+009223372036854775808\u3000" n ∧ IsWord n) ∧
      (number (Decimal.ofInt (2 ^ 63 - 1)) 0 Int64.maxValue).valid = true ∧
      (number "-0" 1 0).valid = false := by
  have refused : (number "\t+009223372036854775808\u3000" 0 Int64.maxValue).valid = false := by
    decide +kernel
  obtain ⟨-, said, written, -⟩ :=
    number_verdict "\t+009223372036854775808\u3000" 0 Int64.maxValue
  obtain ⟨-, -, -, empty⟩ := number_verdict "-0" 1 0
  exact ⟨refused, (said refused).2, written (2 ^ 63 - 1) (by decide) (by decide), empty (by decide)⟩

end Check

end CommandSynthesis
