import CommandSynthesis.Json.Printer
import CommandSynthesis.Json.Reader
import CommandSynthesis.Proofs.Decimal.Digits

set_option autoImplicit false

/-!
# Strings and integers read back

A string that was written is read back from the front of a text, whatever its characters are. So is
an integer of 64 bits, unless the text goes on as a number would.
-/

namespace CommandSynthesis

namespace Json

@[simp] theorem push_ok (done : List Char) (c : Char) :
    Partial.push (.ok done) c = .ok (c :: done) := rfl

theorem readString_plain {c : Char} (other : c ≠ '"') (plain : c ≠ '\\') (shown : 0x20 ≤ c.toNat)
    (done : Partial) (rest : List Char) :
    readString done (c :: rest) = readString (done.push c) rest := by
  rw [readString]
  · rw [if_neg (Nat.not_lt.2 shown)]
  · exact other
  all_goals simp [plain]

theorem readString_short {c char : Char} (short : shortEscape? c = some char) (done : Partial)
    (rest : List Char) :
    readString done ('\\' :: c :: rest) = readString (done.push char) rest := by
  have other : c ≠ 'u' := by
    rintro rfl
    cases short
  rw [readString]
  · rw [short]
  all_goals simp [other]

theorem readString_code {a b c d : Char} {code : Nat} (read : hexValue? a b c d = some code)
    (low : code < 0xD800) (done : Partial) (rest : List Char) :
    readString done ('\\' :: 'u' :: a :: b :: c :: d :: rest) =
      readString (done.push (Char.ofNat code)) rest := by
  have high : isHighSurrogate code = false := by
    simp only [isHighSurrogate, Bool.and_eq_false_iff, decide_eq_false_iff_not]
    omega
  have second : isLowSurrogate code = false := by
    simp only [isLowSurrogate, Bool.and_eq_false_iff, decide_eq_false_iff_not]
    omega
  rw [readString, read]
  simp [high, second]

theorem hexValue?_hexChar {code : Nat} (control : code < 0x20) :
    hexValue? '0' '0' (hexChar (code / 16)) (hexChar (code % 16)) = some code := by
  have all : ∀ code, code < 0x20 →
      hexValue? '0' '0' (hexChar (code / 16)) (hexChar (code % 16)) = some code := by decide
  exact all code control

theorem readString_escapeChar (done : Partial) (c : Char) (rest : List Char) :
    readString done (escapeChar c ++ rest) = readString (done.push c) rest := by
  by_cases quote : c = '"'
  · subst quote
    exact readString_short rfl done rest
  by_cases slash : c = '\\'
  · subst slash
    exact readString_short rfl done rest
  by_cases newline : c = '\n'
  · subst newline
    exact readString_short rfl done rest
  by_cases carriage : c = '\r'
  · subst carriage
    exact readString_short rfl done rest
  by_cases tab : c = '\t'
  · subst tab
    exact readString_short rfl done rest
  by_cases back : c = '\x08'
  · subst back
    exact readString_short rfl done rest
  by_cases feed : c = '\x0c'
  · subst feed
    exact readString_short rfl done rest
  simp only [escapeChar, if_neg quote, if_neg slash, if_neg newline, if_neg carriage, if_neg tab,
    if_neg back, if_neg feed]
  split
  · next control =>
    have read := readString_code (hexValue?_hexChar control) (by omega) done rest
    rwa [Char.ofNat_toNat] at read
  · next shown => exact readString_plain quote slash (Nat.not_lt.1 shown) done rest

/-- The rest of a string that was written is read up to its closing quote. -/
theorem readString_flatMap (before text rest : List Char) :
    readString (.ok before) (text.flatMap escapeChar ++ '"' :: rest) =
      (.string (some (String.ofList (before.reverse ++ text))), some rest) := by
  induction text generalizing before with
  | nil => rw [List.flatMap_nil, List.nil_append, readString, List.append_nil]; rfl
  | cons c text ih =>
    rw [List.flatMap_cons, List.append_assoc, readString_escapeChar, push_ok, ih,
      List.reverse_cons, List.append_assoc, List.singleton_append]

theorem readString_quote (text : String) (rest : List Char) :
    readString (.ok []) (text.toList.flatMap escapeChar ++ '"' :: rest) =
      (.string (some text), some rest) := by
  rw [readString_flatMap, List.reverse_nil, List.nil_append, String.ofList_toList]

/-- No number that ends before the text could go on in it. -/
structure EndsNumber (text : List Char) : Prop where
  digit : Decimal.EndsDigits text
  point : text.head? ≠ some '.'
  mark : text.head? ≠ some 'e' ∧ text.head? ≠ some 'E'

theorem endsNumber_nil : EndsNumber [] := ⟨nofun, nofun, nofun, nofun⟩

theorem endsNumber_cons {c : Char} (digit : c.isDigit = false) (point : c ≠ '.')
    (mark : c ≠ 'e' ∧ c ≠ 'E') (text : List Char) : EndsNumber (c :: text) where
  digit := by
    intro d first
    cases first
    exact digit
  point same := point (Option.some.inj same)
  mark := ⟨fun same => mark.1 (Option.some.inj same), fun same => mark.2 (Option.some.inj same)⟩

theorem keepInteger_eq (before text : List Char)
    (fits : Decimal.value (before ++ text) ≤ maxSignificand) :
    keepInteger (Decimal.value before) text = (Decimal.value (before ++ text), 0) := by
  induction text generalizing before with
  | nil => rw [keepInteger, List.append_nil]
  | cons c text ih =>
    have next : 10 * Decimal.value before + Decimal.digitValue c = Decimal.value (before ++ [c]) := by
      simp [Decimal.value]
    have split : before ++ c :: text = before ++ [c] ++ text := List.append_cons before c text
    rw [split] at fits ⊢
    rw [keepInteger]
    simp only [next]
    rw [if_pos (Nat.le_trans (Decimal.le_value_append _ _) fits), ih _ fits]

theorem readWhole_digits {rest : List Char} (stop : EndsNumber rest) (n : Nat) :
    readWhole (Decimal.digits n ++ rest) = .ok (Decimal.digits n, rest) := by
  have all : ∀ c ∈ Decimal.digits n, c.isDigit = true := fun c => Decimal.isDigit_of_mem_digits
  rw [readWhole, Decimal.spanDigits_append all stop.digit]
  split
  · next none => exact absurd (congrArg Prod.fst none) (Decimal.digits_ne_nil n)
  · next zero => cases Decimal.eq_nil_of_digits_eq (congrArg Prod.fst zero)
  · next same => cases same; rfl

theorem readFraction_none {rest : List Char} (stop : EndsNumber rest) :
    readFraction rest = .ok ([], rest) := by
  rw [readFraction]
  rintro after rfl
  exact stop.point rfl

theorem readExponent_none {rest : List Char} (stop : EndsNumber rest) :
    readExponent rest = .ok (none, rest) := by
  cases rest with
  | nil => rfl
  | cons c rest =>
    have mark : ¬ (c = 'e' ∨ c = 'E') := by
      rintro (rfl | rfl)
      · exact stop.mark.1 rfl
      · exact stop.mark.2 rfl
    unfold readExponent
    exact if_neg mark

theorem readNumber_digits {rest : List Char} (stop : EndsNumber rest) (negative : Bool) (n : Nat) :
    readNumber negative (Decimal.digits n ++ rest) =
      (.number (numberOf? negative (Decimal.digits n) [] none), some rest) := by
  simp only [readNumber, readWhole_digits stop, readFraction_none stop, readExponent_none stop, bind,
    Except.bind, pure, Except.pure]

theorem numberOf?_digits {n : Nat} (fits : n ≤ maxSignificand) :
    numberOf? false (Decimal.digits n) [] none = some (.integer n) := by
  have kept := keepInteger_eq [] (Decimal.digits n)
    (by rwa [List.nil_append, Decimal.value_digits])
  rw [List.nil_append, Decimal.value_digits] at kept
  change keepInteger 0 _ = _ at kept
  simp [numberOf?, kept, keepFraction]

theorem numberOf?_negative {n : Nat} (positive : 0 < n) (fits : n ≤ 0x8000000000000000) :
    numberOf? true (Decimal.digits n) [] none = some (.integer (-n)) := by
  have kept := keepInteger_eq [] (Decimal.digits n)
    (by rw [List.nil_append, Decimal.value_digits, maxSignificand]; omega)
  rw [List.nil_append, Decimal.value_digits] at kept
  change keepInteger 0 _ = _ at kept
  have inside : ¬ (n = 0 ∨ 0x8000000000000000 < n) := by omega
  simp [numberOf?, kept, keepFraction, inside]

end Json

end CommandSynthesis
