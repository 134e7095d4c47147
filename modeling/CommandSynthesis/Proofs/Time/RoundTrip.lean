import CommandSynthesis.Proofs.Decimal.Digits
import CommandSynthesis.Time.Printer
import CommandSynthesis.Time.Reader

set_option autoImplicit false

/-!
# Instants read back

What is written for an instant is read as the same instant: years of any length and sign, fractions
of one to three groups of places, and leap seconds.
-/

namespace CommandSynthesis

namespace Instant

open Decimal (EndsDigits padded)

theorem skipBlanks_cons {c : Char} (shown : Text.isBlank c = false) (text : List Char) :
    skipBlanks (c :: text) = c :: text :=
  List.dropWhile_cons_of_neg (by simp [shown])

theorem isBlank_of_isDigit {c : Char} (digit : c.isDigit = true) : Text.isBlank c = false := by
  have all : ∀ code, code ≤ 57 → 48 ≤ code → Text.blankRanges.contains code = false := by decide
  simp only [Char.isDigit, Bool.and_eq_true, decide_eq_true_eq] at digit
  exact all c.toNat digit.2 digit.1

theorem skipBlanks_digits {run : List Char} (filled : run ≠ [])
    (all : ∀ c ∈ run, c.isDigit = true) (rest : List Char) :
    skipBlanks (run ++ rest) = run ++ rest := by
  obtain ⟨c, tail, rfl⟩ := List.exists_cons_of_ne_nil filled
  exact skipBlanks_cons (isBlank_of_isDigit (all c List.mem_cons_self)) _

theorem padded_ne_nil (width n : Nat) : padded width n ≠ [] :=
  List.append_ne_nil_of_right_ne_nil _ (Decimal.digits_ne_nil n)

theorem readDigits_limit {run : List Char} (filled : run ≠ []) (all : ∀ c ∈ run, c.isDigit = true)
    (rest : List Char) : readDigits (some run.length) (run ++ rest) = .ok (run, rest) := by
  obtain ⟨c, tail, rfl⟩ := List.exists_cons_of_ne_nil filled
  have span := Decimal.spanDigits_run all rest
  rw [List.cons_append] at span ⊢
  simp [readDigits, span]

theorem readDigits_all {run : List Char} (filled : run ≠ []) (all : ∀ c ∈ run, c.isDigit = true)
    {rest : List Char} (stop : EndsDigits rest) :
    readDigits none (run ++ rest) = .ok (run, rest) := by
  obtain ⟨c, tail, rfl⟩ := List.exists_cons_of_ne_nil filled
  have span := Decimal.spanDigits_append all stop
  rw [List.cons_append] at span ⊢
  simp [readDigits, span]

theorem readField_padded {low high n : Nat} (least : low ≤ n) (most : n ≤ high) (short : n < 100)
    (rest : List Char) : readField low high (padded 2 n ++ rest) = .ok (n, rest) := by
  have all : ∀ c ∈ padded 2 n, c.isDigit = true := fun c => Decimal.isDigit_of_mem_padded
  have taken := readDigits_limit (padded_ne_nil 2 n) all rest
  rw [Decimal.length_padded (by decide) short] at taken
  rw [readField, skipBlanks_digits (padded_ne_nil 2 n) all, taken]
  simp [bind, Except.bind, Decimal.value_padded, least, most, pure, Except.pure]

theorem readMark_skipBlanks {mark : Char} (shown : Text.isBlank mark = false) (rest : List Char) :
    readMark mark (skipBlanks (mark :: rest)) = .ok rest := by
  rw [skipBlanks_cons shown, readMark, if_pos rfl]

theorem endsDigits_cons {c : Char} (other : c.isDigit = false) (rest : List Char) :
    EndsDigits (c :: rest) := by
  intro d first
  cases first
  exact other

theorem readYear_short {text run rest : List Char}
    (front : ∃ c tail, text = c :: tail ∧ c.isDigit = true)
    (taken : readDigits (some 4) text = .ok (run, rest)) (bound : Decimal.value run < 0x80000000) :
    readYear text = .ok (Decimal.value run, rest) := by
  obtain ⟨c, tail, rfl, digit⟩ := front
  have first : skipBlanks (c :: tail) = c :: tail := skipBlanks_cons (isBlank_of_isDigit digit) tail
  have minus : c ≠ '-' := by
    rintro rfl
    cases digit
  have plus : c ≠ '+' := by
    rintro rfl
    cases digit
  have inside : -0x80000000 ≤ (Decimal.value run : Int) ∧ (Decimal.value run : Int) < 0x80000000 := by
    omega
  simp [readYear, first, minus, plus, taken, bind, Except.bind, inside, pure, Except.pure]

theorem readYear_signed (negative : Bool) {text run rest : List Char}
    (taken : readDigits none text = .ok (run, rest)) (bound : Decimal.value run < 0x80000000) :
    readYear ((if negative then '-' else '+') :: text) =
      .ok (if negative then -Decimal.value run else Decimal.value run, rest) := by
  have inside : -0x80000000 ≤ (Decimal.value run : Int) ∧ (Decimal.value run : Int) < 0x80000000 ∧
      -0x80000000 ≤ -(Decimal.value run : Int) ∧ -(Decimal.value run : Int) < 0x80000000 := by
    omega
  cases negative with
  | false =>
    have first : skipBlanks ('+' :: text) = '+' :: text := skipBlanks_cons (by decide) text
    simp [readYear, first, taken, bind, Except.bind, inside, pure, Except.pure]
  | true =>
    have first : skipBlanks ('-' :: text) = '-' :: text := skipBlanks_cons (by decide) text
    simp [readYear, first, taken, bind, Except.bind, inside, pure, Except.pure]

theorem readYear_printYear {year : Int} (least : Date.minYear ≤ year) (most : year ≤ Date.maxYear)
    (rest : List Char) :
    readYear (Date.printYear year ++ '-' :: rest) = .ok (year, '-' :: rest) := by
  have all (n : Nat) : ∀ c ∈ padded 4 n, c.isDigit = true := fun c => Decimal.isDigit_of_mem_padded
  simp only [Date.minYear, Date.maxYear] at least most
  unfold Date.printYear
  split
  · next short =>
    have taken := readDigits_limit (padded_ne_nil 4 year.toNat) (all _) ('-' :: rest)
    rw [Decimal.length_padded (by decide) (by omega)] at taken
    obtain ⟨c, tail, split⟩ := List.exists_cons_of_ne_nil (padded_ne_nil 4 year.toNat)
    have digit : c.isDigit = true := all _ c (by rw [split]; exact List.mem_cons_self)
    have front : ∃ d others, padded 4 year.toNat ++ '-' :: rest = d :: others ∧ d.isDigit = true :=
      ⟨c, _, by rw [split]; rfl, digit⟩
    rw [readYear_short front taken (by rw [Decimal.value_padded]; omega), Decimal.value_padded,
      Int.toNat_of_nonneg short.1]
  · next long =>
    have stop : EndsDigits ('-' :: rest) := endsDigits_cons (by decide) rest
    have taken := readDigits_all (padded_ne_nil 4 year.natAbs) (all _) stop
    have read := readYear_signed (year < 0) taken (by rw [Decimal.value_padded]; omega)
    have same : (if year < 0 then -(year.natAbs : Int) else year.natAbs) = year := by omega
    simp only [Decimal.value_padded, decide_eq_true_eq, same] at read
    exact read

theorem readFraction_digits {width n : Nat} (positive : 0 < width) (bound : n < 10 ^ width)
    (most : width ≤ 9) (rest : List Char) :
    readFraction ('.' :: padded width n ++ 'Z' :: rest) =
      .ok (n * 10 ^ (9 - width), 'Z' :: rest) := by
  have all : ∀ c ∈ padded width n, c.isDigit = true := fun c => Decimal.isDigit_of_mem_padded
  have stop : EndsDigits ('Z' :: rest) := endsDigits_cons (by decide) rest
  have length := Decimal.length_padded positive bound
  have kept : (padded width n).take 9 = padded width n := List.take_of_length_le (by omega)
  rw [List.cons_append, readFraction, readDigits_all (padded_ne_nil width n) all stop]
  simp only [bind, Except.bind, kept, length, Decimal.value_padded, pure, Except.pure, Nat.pow_eq]

theorem readFraction_printFraction (time : TimeOfDay) (rest : List Char) :
    readFraction (time.printFraction ++ 'Z' :: rest) = .ok (time.fraction, 'Z' :: rest) := by
  have bound : time.fraction < 1000000000 := Nat.mod_lt _ (by decide)
  unfold TimeOfDay.printFraction
  split
  · next none => rw [none]; rfl
  split
  · next thousands =>
    rw [readFraction_digits (by decide) (by omega) (by decide)]
    congr 2
    omega
  split
  · next thousands =>
    rw [readFraction_digits (by decide) (by omega) (by decide)]
    congr 2
    omega
  · rw [readFraction_digits (by decide) (by omega) (by decide)]
    congr 2
    omega

theorem ofLocal?_zero (date : Date) (time : TimeOfDay) :
    ofLocal? date time 0 = some ⟨date, time⟩ := by
  have positive : ¬ (time.minute : Int) < 0 := by omega
  have below : (time.minute : Int) < 1440 := by
    have := time.minute_lt
    omega
  have same : ((time.minute : Int) % 1440).toNat = time.minute := by omega
  simp [ofLocal?, positive, below, same]

theorem readZone_utc : readZone (skipBlanks ['Z']) = .ok (0, []) := rfl

/-- A leap second, written as the second 60, is the second 59 with more nanoseconds. -/
theorem of?_clock (time : TimeOfDay) :
    (if time.second + time.nanosecond / 1000000000 = 60 then
      TimeOfDay.of? (60 * (time.minute / 60) + time.minute % 60) 59 (1000000000 + time.fraction)
    else TimeOfDay.of? (60 * (time.minute / 60) + time.minute % 60)
      (time.second + time.nanosecond / 1000000000) time.fraction) = some time := by
  have minute : 60 * (time.minute / 60) + time.minute % 60 = time.minute := Nat.div_add_mod _ _
  have bound := time.nanosecond_lt
  rw [minute, TimeOfDay.fraction]
  by_cases leap : time.nanosecond < 1000000000
  · have second := time.second_lt
    have whole : time.nanosecond / 1000000000 = 0 := Nat.div_eq_of_lt leap
    rw [whole, Nat.add_zero, if_neg (by omega), Nat.mod_eq_of_lt leap]
    exact TimeOfDay.of?_eq_some time
  · have last : time.second = 59 := by
      by_cases last : time.second = 59
      · exact last
      · rw [if_neg last] at bound
        exact absurd bound leap
    rw [if_pos last] at bound
    have nanosecond : 1000000000 + time.nanosecond % 1000000000 = time.nanosecond := by omega
    rw [if_pos (by omega), nanosecond, ← last]
    exact TimeOfDay.of?_eq_some time

theorem daysInMonth_le (year : Int) (month : Nat) : Date.daysInMonth year month ≤ 31 := by
  unfold Date.daysInMonth
  split
  · split <;> decide
  · split <;> decide

/-- What is written for an instant is read as the instant. -/
theorem read_print (instant : Instant) : read instant.print = .ok instant := by
  obtain ⟨date, time⟩ := instant
  obtain ⟨least, most, month, month', day, day'⟩ := date.isDay
  have days := daysInMonth_le date.year date.month
  have minute := time.minute_lt
  have second := time.second_lt
  have nanosecond : time.nanosecond < 2000000000 := by
    have bound := time.nanosecond_lt
    split at bound <;> omega
  have text : (print ⟨date, time⟩).toList = Date.printYear date.year ++ '-' ::
      (padded 2 date.month ++ '-' :: (padded 2 date.day ++ 'T' :: (padded 2 (time.minute / 60) ++
        ':' :: (padded 2 (time.minute % 60) ++ ':' ::
          (padded 2 (time.second + time.nanosecond / 1000000000) ++
            (time.printFraction ++ ['Z'])))))) := by
    simp [print, Date.print, TimeOfDay.print]
  have hyphen : Text.isBlank '-' = false := by decide
  have colon : Text.isBlank ':' = false := by decide
  have separator (rest : List Char) : readSeparator ('T' :: rest) = .ok rest := rfl
  have finished : (skipBlanks []).isEmpty = true := rfl
  have zone : (0 : Int).natAbs < 1440 := by decide
  simp only [read, text, readYear_printYear least most, readMark_skipBlanks hyphen,
    readMark_skipBlanks colon, readField_padded month month' (by omega),
    readField_padded day (Nat.le_trans day' days) (by omega), separator,
    readField_padded (Nat.zero_le _) (show time.minute / 60 ≤ 23 by omega) (by omega),
    readField_padded (Nat.zero_le _) (show time.minute % 60 ≤ 59 by omega) (by omega),
    readField_padded (Nat.zero_le _)
      (show time.second + time.nanosecond / 1000000000 ≤ 60 by omega) (by omega),
    readFraction_printFraction, readZone_utc, of?_clock, Date.of?_eq_some, ofLocal?_zero, bind,
    Except.bind, pure, Except.pure, finished, not_true_eq_false, if_false, if_pos zone]

end Instant

end CommandSynthesis
