import CommandSynthesis.Proofs.Json.Steps
import Mathlib.Data.List.TakeWhile

set_option autoImplicit false

/-!
# Numbers that are read as reals

A real is written with a fraction or an exponent, and so is never read as an integer; nor is an
integer that 64 bits do not hold. Which real is read plays no part here, only that it is one, or
that it is beyond all reals.
-/

namespace CommandSynthesis

open Decimal (EndsDigits spanDigits_append)

namespace Json

/-- The parts of a number as it is written: the digits before the point, those after it, and the
sign and the digits of the exponent. -/
structure Numeral where
  whole : List Char
  fraction : List Char
  exponent : Option (Bool × List Char)

namespace Numeral

def AreDigits (text : List Char) : Prop :=
  ∀ c ∈ text, c.isDigit = true

def fractionText : List Char → List Char
  | [] => []
  | c :: rest => '.' :: c :: rest

def exponentText : Option (Bool × List Char) → List Char
  | none => []
  | some (negative, power) => 'e' :: (if negative then '-' else '+') :: power

def text (numeral : Numeral) : List Char :=
  numeral.whole ++ (fractionText numeral.fraction ++ exponentText numeral.exponent)

/-- The exponent as a number. -/
def power? (exponent : Option (Bool × List Char)) : Option Int :=
  exponent.map fun (negative, power) =>
    if negative then -(Decimal.value power : Int) else Decimal.value power

/-- The parts are well-formed, and they are not those of an integer. -/
structure IsReal (numeral : Numeral) : Prop where
  whole : AreDigits numeral.whole
  filled : numeral.whole ≠ []
  lead : ∀ rest, numeral.whole = '0' :: rest → rest = []
  fraction : AreDigits numeral.fraction
  power : ∀ negative power, numeral.exponent = some (negative, power) →
    power ≠ [] ∧ AreDigits power
  real : numeral.fraction ≠ [] ∨ numeral.exponent ≠ none

theorem IsReal.power_real {numeral : Numeral} (real : numeral.IsReal) :
    numeral.fraction ≠ [] ∨ power? numeral.exponent ≠ none := by
  rcases real.real with filled | given
  · exact .inl filled
  · exact .inr fun missing => given (Option.map_eq_none_iff.1 missing)

theorem IsReal.exists_text {numeral : Numeral} (real : numeral.IsReal) :
    ∃ c rest, numeral.text = c :: rest ∧ c.isDigit = true := by
  obtain ⟨c, rest, split⟩ := List.exists_cons_of_ne_nil real.filled
  refine ⟨c, rest ++ (fractionText numeral.fraction ++ exponentText numeral.exponent), ?_, ?_⟩
  · rw [text, split, List.cons_append]
  · exact real.whole c (by rw [split]; exact List.mem_cons_self)

/-! ## Reading the parts -/

section Parts

variable {rest : List Char} (stop : EndsNumber rest)

include stop

theorem readExponent_text {exponent : Option (Bool × List Char)}
    (power : ∀ negative power, exponent = some (negative, power) → power ≠ [] ∧ AreDigits power) :
    readExponent (exponentText exponent ++ rest) = .ok (power? exponent, rest) := by
  cases exponent with
  | none => exact readExponent_none stop
  | some given =>
    obtain ⟨negative, digits⟩ := given
    obtain ⟨filled, isDigits⟩ := power negative digits rfl
    have span := spanDigits_append isDigits stop.digit
    obtain ⟨c, run, rfl⟩ := List.exists_cons_of_ne_nil filled
    rw [List.cons_append] at span
    cases negative <;> simp [exponentText, readExponent, span, power?]

theorem endsDigits_exponent (exponent : Option (Bool × List Char)) :
    EndsDigits (exponentText exponent ++ rest) := by
  cases exponent with
  | none => exact stop.digit
  | some given =>
    intro c first
    cases first
    rfl

theorem readFraction_text {fraction : List Char} (digits : AreDigits fraction)
    (exponent : Option (Bool × List Char)) :
    readFraction (fractionText fraction ++ (exponentText exponent ++ rest)) =
      .ok (fraction, exponentText exponent ++ rest) := by
  cases fraction with
  | nil =>
    cases exponent with
    | none => exact readFraction_none stop
    | some given => rfl
  | cons c fraction =>
    have span := spanDigits_append digits (endsDigits_exponent stop exponent)
    rw [List.cons_append] at span
    simp only [fractionText, List.cons_append, readFraction, span]

theorem endsDigits_fraction (fraction : List Char) (exponent : Option (Bool × List Char)) :
    EndsDigits (fractionText fraction ++ (exponentText exponent ++ rest)) := by
  cases fraction with
  | nil => exact endsDigits_exponent stop exponent
  | cons c fraction =>
    intro c first
    cases first
    rfl

end Parts

theorem readWhole_text {whole rest : List Char} (digits : AreDigits whole) (filled : whole ≠ [])
    (lead : ∀ rest, whole = '0' :: rest → rest = []) (stop : EndsDigits rest) :
    readWhole (whole ++ rest) = .ok (whole, rest) := by
  rw [readWhole, spanDigits_append digits stop]
  split
  · next none => exact absurd (congrArg Prod.fst none) filled
  · next zero => cases lead _ (congrArg Prod.fst zero)
  · next same => cases same; rfl

/-- A number is read from its parts, whatever they are. -/
theorem readNumber_text {numeral : Numeral} (real : numeral.IsReal) {rest : List Char}
    (stop : EndsNumber rest) (negative : Bool) :
    readNumber negative (numeral.text ++ rest) =
      (.number (numberOf? negative numeral.whole numeral.fraction (power? numeral.exponent)),
        some rest) := by
  have whole := readWhole_text real.whole real.filled real.lead
    (endsDigits_fraction stop numeral.fraction numeral.exponent)
  have fraction := readFraction_text stop real.fraction numeral.exponent
  have exponent := readExponent_text stop real.power
  simp only [readNumber, text, List.append_assoc, whole, fraction, exponent, bind, Except.bind,
    pure, Except.pure]

end Numeral

/-! ## Reals among the numbers read -/

/-- A number of which it is only known that it is a real, or beyond all reals. -/
def IsReal (found : Option Number) : Prop :=
  ∃ real : Option Binary64, found = real.map .real

theorem isReal_numberOf? {fraction : List Char} {exponent : Option Int}
    (real : fraction ≠ [] ∨ exponent ≠ none) (negative : Bool) (whole : List Char) :
    IsReal (numberOf? negative whole fraction exponent) := by
  have other (dropped : Nat) :
      ¬ (fraction.isEmpty = true ∧ exponent.isNone = true ∧ dropped = 0) := by
    rintro ⟨empty, missing, -⟩
    rcases real with filled | given
    · exact filled (List.isEmpty_iff.1 empty)
    · exact given (Option.isNone_iff_eq_none.1 missing)
  unfold numberOf?
  simp only [if_neg (other _)]
  exact ⟨_, rfl⟩

theorem keepInteger_le {significand : Nat} (small : significand ≤ maxSignificand)
    (text : List Char) : (keepInteger significand text).1 ≤ maxSignificand := by
  induction text generalizing significand with
  | nil => exact small
  | cons c text ih =>
    rw [keepInteger]
    split
    · next fits => exact ih fits
    · exact small

/-- When no digit is left out the significand is the number that the digits stand for. -/
theorem keepInteger_of_kept {significand : Nat} {text : List Char}
    (kept : (keepInteger significand text).2 = 0) :
    (keepInteger significand text).1 =
      text.foldl (fun n c => 10 * n + Decimal.digitValue c) significand := by
  induction text generalizing significand with
  | nil => rfl
  | cons c text ih =>
    rw [keepInteger] at kept ⊢
    split at kept
    · next fits =>
      rw [if_pos fits]
      exact ih kept
    · cases kept

/-- Digits of a number that is too large are read as a real. -/
theorem isReal_numberOf?_digits (negative : Bool) {n : Nat}
    (large : (if negative then 0x8000000000000000 else maxSignificand) < n) :
    IsReal (numberOf? negative (Decimal.digits n) [] none) := by
  have bound := keepInteger_le (Nat.zero_le maxSignificand) (Decimal.digits n)
  by_cases kept : (keepInteger 0 (Decimal.digits n)).2 = 0
  · have same := keepInteger_of_kept kept
    change _ = Decimal.value (Decimal.digits n) at same
    rw [Decimal.value_digits] at same
    cases negative with
    | false =>
      rw [same] at bound
      exact absurd bound (Nat.not_le.2 large)
    | true =>
      have outside : n = 0 ∨ 0x8000000000000000 < n := .inr large
      refine ⟨Binary64.ofDecimal? true n 0, ?_⟩
      simp [numberOf?, keepFraction, kept, same, outside]
  · refine ⟨Binary64.ofDecimal? negative (keepInteger 0 (Decimal.digits n)).1
      (keepInteger 0 (Decimal.digits n)).2, ?_⟩
    simp [numberOf?, keepFraction, kept]

end Json

/-! ## Printed reals -/

namespace Binary64

open Json Json.Numeral Decimal

theorem pos_of_best? {x : Binary64} {power : Int} {candidate : Nat}
    (found : x.best? power = some candidate) : 0 < candidate := by
  have positive : ∀ other ∈ x.candidates power, 0 < other := by
    intro other member
    have right := (List.mem_filter.1 member).2
    simp only [Bool.and_eq_true, decide_eq_true_eq] at right
    exact right.1
  unfold best? at found
  split at found
  · cases found
  · next only =>
    cases found
    exact positive candidate (by rw [only]; exact List.mem_cons_self)
  · next low high _ both =>
    have first := positive low (by rw [both]; exact List.mem_cons_self)
    have second := positive high (by rw [both]; simp)
    cases found
    split
    · exact first
    · exact second

theorem shortestFrom_pos_or (x : Binary64) (power : Int) (steps : Nat) :
    0 < (x.shortestFrom power steps).1 ∨ x.shortestFrom power steps = (0, 0) := by
  induction steps generalizing power with
  | zero => exact .inr rfl
  | succ steps ih =>
    rw [shortestFrom]
    cases found : x.best? power with
    | none => exact ih (power - 1)
    | some candidate => exact .inl (pos_of_best? found)

theorem shortest_pos_or {x : Binary64} (nonzero : x.mantissa ≠ 0) :
    0 < x.shortest.1 ∨ x.shortest = (0, 0) := by
  unfold shortest
  rw [if_neg nonzero]
  exact shortestFrom_pos_or x _ 800

/-- The digits of a number that is not zero, or a front of them. -/
structure IsLeading (text : List Char) : Prop where
  digits : AreDigits text
  filled : text ≠ []
  lead : ∀ rest, text ≠ '0' :: rest

theorem areDigits_zeros (count : Nat) : AreDigits (List.replicate count '0') := by
  intro c member
  rw [(List.mem_replicate.1 member).2]
  rfl

theorem areDigits_append {before after : List Char} (first : AreDigits before)
    (second : AreDigits after) : AreDigits (before ++ after) := by
  intro c member
  rcases List.mem_append.1 member with member | member
  · exact first c member
  · exact second c member

section Parts

variable {text : List Char} (leading : IsLeading text)

include leading

theorem IsLeading.drop (count : Nat) : AreDigits (text.drop count) := by
  intro c member
  exact leading.digits c (List.mem_of_mem_drop member)

theorem IsLeading.of_prefix {front : List Char} (before : front <+: text) (filled : front ≠ []) :
    IsLeading front where
  digits c member := leading.digits c (before.subset member)
  filled := filled
  lead rest lead := by
    obtain ⟨after, split⟩ := before
    rw [lead, List.cons_append] at split
    exact leading.lead _ split.symm

theorem IsLeading.take {count : Nat} (some : 0 < count) : IsLeading (text.take count) := by
  apply leading.of_prefix (List.take_prefix count text)
  intro none
  rcases List.take_eq_nil_iff.1 none with zero | none
  · omega
  · exact leading.filled none

theorem IsLeading.zeros (count : Nat) : IsLeading (text ++ List.replicate count '0') where
  digits := areDigits_append leading.digits (areDigits_zeros count)
  filled none := leading.filled (List.append_eq_nil_iff.1 none).1
  lead _ lead := by
    rcases List.append_eq_cons_iff.1 lead with ⟨none, _⟩ | ⟨front, split, _⟩
    · exact leading.filled none
    · exact leading.lead _ split

theorem IsLeading.isReal {fraction : List Char} {exponent : Option (Bool × List Char)}
    (digits : AreDigits fraction)
    (power : ∀ negative power, exponent = some (negative, power) → power ≠ [] ∧ AreDigits power)
    (real : fraction ≠ [] ∨ exponent ≠ none) : (Numeral.mk text fraction exponent).IsReal where
  whole := leading.digits
  filled := leading.filled
  lead rest lead := absurd lead (leading.lead rest)
  fraction := digits
  power := power
  real := real

end Parts

theorem isReal_zero {fraction : List Char} (digits : AreDigits fraction) (filled : fraction ≠ []) :
    (Numeral.mk ['0'] fraction none).IsReal where
  whole := areDigits_zeros 1
  filled := nofun
  lead _ same := (List.cons.inj same).2.symm
  fraction := digits
  power := nofun
  real := .inl filled

/-- The parts in which a real is written: its significant digits and the power of ten that they
are multiplied by. -/
def parts (text : List Char) (power : Int) : Numeral :=
  let point : Int := text.length + power
  if 0 ≤ power ∧ point ≤ 16 then ⟨text ++ List.replicate power.toNat '0', ['0'], none⟩
  else if 0 < point ∧ point ≤ 16 then ⟨text.take point.toNat, text.drop point.toNat, none⟩
  else if -5 < point ∧ point ≤ 0 then
    ⟨['0'], List.replicate (-point).toNat '0' ++ text, none⟩
  else ⟨text.take 1, text.drop 1, some (!decide (0 < point), digits (point - 1).natAbs)⟩

theorem drop_ne_nil {text : List Char} {count : Nat} (short : count < text.length) :
    text.drop count ≠ [] := by
  intro none
  have := List.drop_eq_nil_iff.1 none
  omega

theorem isReal_parts {text : List Char} (leading : IsLeading text) (power : Int) :
    (parts text power).IsReal := by
  unfold parts
  dsimp only
  split
  · exact (leading.zeros _).isReal (areDigits_zeros 1) nofun (.inl nofun)
  split
  · have behind : text.drop (text.length + power).toNat ≠ [] := drop_ne_nil (by omega)
    exact (leading.take (by omega)).isReal (leading.drop _) nofun (.inl behind)
  split
  · refine isReal_zero (areDigits_append (areDigits_zeros _) leading.digits) fun none => ?_
    exact leading.filled (List.append_eq_nil_iff.1 none).2
  · refine (leading.take Nat.one_pos).isReal (leading.drop 1) ?_ (.inr nofun)
    intro negative power same
    cases same
    exact ⟨digits_ne_nil _, fun c => isDigit_of_mem_digits⟩

theorem fractionText_eq {fraction : List Char} (filled : fraction ≠ []) :
    fractionText fraction = '.' :: fraction := by
  obtain ⟨c, rest, rfl⟩ := List.exists_cons_of_ne_nil filled
  rfl

theorem toList_sign (negative : Bool) :
    (if negative then "-" else "").toList = if negative then ['-'] else [] := by
  cases negative <;> rfl

theorem mark_eq (point : Int) : (if 0 < point then ['e', '+'] else ['e', '-']) =
    ['e', if !decide (0 < point) then '-' else '+'] := by
  by_cases before : 0 < point
  · rw [if_pos before, decide_eq_true before]
    rfl
  · rw [if_neg before, decide_eq_false before]
    rfl

/-- A real other than zero is written, after its sign, in its parts. -/
theorem toList_print {x : Binary64} (nonzero : x.mantissa ≠ 0) {text : List Char} {zeros : Nat}
    (stripped : stripZeros (digits x.shortest.1) = (text, zeros)) (filled : text ≠ []) :
    x.print.toList = (if x.negative then ['-'] else []) ++
      (parts text (x.shortest.2 + zeros)).text := by
  unfold print parts
  rw [if_neg nonzero]
  simp only [stripped, String.toList_append, String.toList_ofList, toList_sign]
  congr 1
  split
  · simp [Numeral.text, fractionText, exponentText]
  split
  · have behind : text.drop (text.length + (x.shortest.2 + zeros)).toNat ≠ [] :=
      drop_ne_nil (by omega)
    simp only [Numeral.text, exponentText, fractionText_eq behind, List.append_nil]
  split
  · have behind : List.replicate (-(text.length + (x.shortest.2 + zeros))).toNat '0' ++ text ≠ [] :=
      fun none => filled (List.append_eq_nil_iff.1 none).2
    simp only [Numeral.text, exponentText, fractionText_eq behind, List.append_nil,
      List.append_assoc]
    rfl
  · rw [mark_eq]
    split
    · next single =>
      have first : text.take 1 = text := List.take_of_length_le (Nat.le_of_eq single)
      have behind : text.drop 1 = [] := List.drop_of_length_le (Nat.le_of_eq single)
      simp [Numeral.text, first, behind, fractionText, exponentText]
    · next several =>
      have behind : text.drop 1 ≠ [] := by
        have := List.length_pos_iff.2 filled
        exact drop_ne_nil (by omega)
      simp only [Numeral.text, fractionText_eq behind, exponentText, List.append_assoc,
        List.cons_append, List.nil_append]

theorem isLeading_digits {n : Nat} (positive : 0 < n) : IsLeading (digits n) where
  digits _ := isDigit_of_mem_digits
  filled := digits_ne_nil n
  lead rest lead := by
    have same := value_digits n
    rw [lead, eq_nil_of_digits_eq lead] at same
    exact Nat.ne_of_gt positive same.symm

/-- Without the zeros at its end the significand is a front of its digits. -/
theorem isLeading_stripZeros {n : Nat} (positive : 0 < n) :
    IsLeading (stripZeros (digits n)).1 := by
  have leading := isLeading_digits positive
  have suffix := List.dropWhile_suffix (l := (digits n).reverse) (· == '0')
  have front := List.reverse_prefix.2 suffix
  rw [List.reverse_reverse] at front
  refine leading.of_prefix front fun none => ?_
  have zeros := List.dropWhile_eq_nil_iff.1 (List.reverse_eq_nil_iff.1 none)
  obtain ⟨c, rest, split⟩ := List.exists_cons_of_ne_nil leading.filled
  have first : (c == '0') = true := zeros c (by rw [split]; simp)
  rw [eq_of_beq first] at split
  exact leading.lead rest split

/-- A real is written, after its sign, in parts that are not those of an integer. -/
theorem exists_numeral (x : Binary64) : ∃ numeral : Numeral, numeral.IsReal ∧
    x.print.toList = (if x.negative then ['-'] else []) ++ numeral.text := by
  have zero : (Numeral.mk ['0'] ['0'] none).IsReal := isReal_zero (areDigits_zeros 1) nofun
  by_cases nothing : x.mantissa = 0
  · refine ⟨_, zero, ?_⟩
    rw [print, if_pos nothing, String.toList_append, toList_sign]
    rfl
  · rcases shortest_pos_or nothing with positive | same
    · have leading := isLeading_stripZeros positive
      exact ⟨_, isReal_parts leading _, toList_print nothing rfl leading.filled⟩
    · have bare : stripZeros (digits 0) = ([], 1) := by
        rw [digits]
        rfl
      refine ⟨_, zero, ?_⟩
      rw [print, if_neg nothing, same]
      simp only [bare, String.toList_append, toList_sign, String.toList_ofList]
      rfl

end Binary64

/-! ## Numbers read back -/

namespace Json

/-- The text of a number begins with a digit or with a sign before one. -/
theorem exists_print (value : Number) : ∃ (negative : Bool) (text : List Char),
    (∃ c rest, text = c :: rest ∧ c.isDigit = true) ∧
      value.print.toList = (if negative then ['-'] else []) ++ text := by
  match value with
  | .integer (.ofNat n) => exact ⟨false, _, exists_digits_cons n, toList_print_ofNat n⟩
  | .integer (.negSucc n) => exact ⟨true, _, exists_digits_cons (n + 1), toList_print_negSucc n⟩
  | .real x =>
    obtain ⟨numeral, real, written⟩ := x.exists_numeral
    exact ⟨x.negative, numeral.text, real.exists_text, written⟩

theorem opens_print (value : Number) : Opens value.print.toList := by
  obtain ⟨negative, _, ⟨c, rest, rfl, digit⟩, written⟩ := exists_print value
  rw [written]
  cases negative with
  | false =>
    exact ⟨c, rest, rfl, isSpace_of_isDigit digit, digit_ne digit rfl, digit_ne digit rfl⟩
  | true => exact ⟨'-', c :: rest, rfl, by decide⟩

/-- A sign and what follows it are read as a number. -/
theorem readValue_signed {c : Char} (digit : c.isDigit = true) (negative : Bool) (fuel : Nat)
    (rest : List Char) :
    readValue (fuel + 1) ((if negative then ['-'] else []) ++ c :: rest) =
      readNumber negative (c :: rest) := by
  cases negative with
  | false => exact readValue_digit fuel rest digit
  | true => exact readValue_minus fuel (c :: rest)

/-- A number is read as itself or, when it is no integer of 64 bits, as some real. -/
theorem exists_readValue_print (value : Number) : ∃ found : Option Number,
    (found = some value ∨ ¬ value.IsWord ∧ IsReal found) ∧
      ∀ fuel {rest : List Char}, EndsNumber rest →
        readValue (fuel + 1) (value.print.toList ++ rest) = (.number found, some rest) := by
  by_cases word : value.IsWord
  · exact ⟨some value, .inl rfl, fun fuel _ stop => readValue_number word stop fuel⟩
  match value, word with
  | .integer (.ofNat n), word =>
    have large : maxSignificand < n := by
      by_contra small
      exact word ⟨Int.le_trans (by decide) (Int.natCast_nonneg n),
        Int.ofNat_le.2 (Nat.not_lt.1 small)⟩
    refine ⟨_, .inr ⟨word, isReal_numberOf?_digits false large⟩, ?_⟩
    intro fuel rest stop
    obtain ⟨c, inner, split, digit⟩ := exists_digits_cons n
    rw [toList_print_ofNat, ← readNumber_digits stop, split]
    exact readValue_signed digit false fuel _
  | .integer (.negSucc n), word =>
    have large : 0x8000000000000000 < n + 1 := by
      by_contra small
      exact word ⟨by omega, by omega⟩
    refine ⟨_, .inr ⟨word, isReal_numberOf?_digits true large⟩, ?_⟩
    intro fuel rest stop
    obtain ⟨c, inner, split, digit⟩ := exists_digits_cons (n + 1)
    rw [toList_print_negSucc, ← readNumber_digits stop, split]
    exact readValue_signed digit true fuel _
  | .real x, word =>
    obtain ⟨numeral, real, written⟩ := x.exists_numeral
    have found := isReal_numberOf? real.power_real x.negative numeral.whole
    refine ⟨_, .inr ⟨word, found⟩, ?_⟩
    intro fuel rest stop
    obtain ⟨c, inner, split, digit⟩ := real.exists_text
    rw [show (Number.real x).print = x.print from rfl, written, List.append_assoc,
      ← Numeral.readNumber_text real stop, split]
    exact readValue_signed digit x.negative fuel _

end Json

end CommandSynthesis
