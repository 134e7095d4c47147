import CommandSynthesis.Proofs.Json.Scalar
import CommandSynthesis.Proofs.Json.Spelling

set_option autoImplicit false

/-!
# Steps of reading

What the readers make of the first part of a text, one lemma for each form of a value, and the rest
of the text is left open. An integer of 64 bits is read as itself.
-/

namespace CommandSynthesis

/-- An integer that 64 bits hold, with or without a sign. -/
def Number.IsWord : Number → Prop
  | .integer value => -0x8000000000000000 ≤ value ∧ value ≤ 0xFFFFFFFFFFFFFFFF
  | .real _ => False

namespace Json

-- Every step below opens one of the readers.
attribute [local simp] readValue readItems readMembers

theorem skipSpace_blank {blank : List Char} (isBlank : IsBlank blank) (text : List Char) :
    skipSpace (blank ++ text) = skipSpace text :=
  List.dropWhile_append_of_pos isBlank

theorem skipSpace_cons {c : Char} (shown : isSpace c = false) (text : List Char) :
    skipSpace (c :: text) = c :: text :=
  List.dropWhile_cons_of_neg (by simp [shown])

theorem skipSpace_blank_cons {blank : List Char} (isBlank : IsBlank blank) {c : Char}
    (shown : isSpace c = false) (text : List Char) :
    skipSpace (blank ++ c :: text) = c :: text := by
  rw [skipSpace_blank isBlank, skipSpace_cons shown]

theorem readValue_blank {blank : List Char} (isBlank : IsBlank blank) (fuel : Nat)
    (text : List Char) : readValue fuel (blank ++ text) = readValue fuel text := by
  cases fuel with
  | zero => rfl
  | succ fuel => rw [readValue, readValue, skipSpace_blank isBlank]

/-- The first character of a text is not blank and closes no bracket. -/
def Opens (text : List Char) : Prop :=
  ∃ c rest, text = c :: rest ∧ isSpace c = false ∧ c ≠ ']' ∧ c ≠ '}'

theorem Opens.append {text : List Char} (opens : Opens text) (more : List Char) :
    Opens (text ++ more) := by
  obtain ⟨c, rest, rfl, shown, other⟩ := opens
  exact ⟨c, rest ++ more, rfl, shown, other⟩

theorem Opens.skipSpace {text : List Char} (opens : Opens text) : skipSpace text = text := by
  obtain ⟨c, rest, rfl, shown, _⟩ := opens
  exact skipSpace_cons shown rest

theorem digit_ne {c : Char} (digit : c.isDigit = true) {d : Char} (other : d.isDigit = false) :
    c ≠ d := by
  rintro rfl
  rw [digit] at other
  cases other

theorem isSpace_of_isDigit {c : Char} (digit : c.isDigit = true) : isSpace c = false := by
  simp [isSpace, digit_ne digit]

theorem exists_digits_cons (n : Nat) :
    ∃ c rest, Decimal.digits n = c :: rest ∧ c.isDigit = true := by
  obtain ⟨c, rest, split⟩ := List.exists_cons_of_ne_nil (Decimal.digits_ne_nil n)
  exact ⟨c, rest, split, Decimal.isDigit_of_mem_digits (by rw [split]; exact List.mem_cons_self)⟩

theorem toList_print_ofNat (n : Nat) :
    (Number.integer (.ofNat n)).print.toList = Decimal.digits n :=
  String.toList_ofList

theorem toList_print_negSucc (n : Nat) :
    (Number.integer (.negSucc n)).print.toList = '-' :: Decimal.digits (n + 1) := by
  simp [Number.print, Decimal.ofInt, Decimal.ofNat]

theorem quote_append (text : String) (rest : List Char) :
    quote text ++ rest = '"' :: (text.toList.flatMap escapeChar ++ '"' :: rest) := by
  simp [quote]

theorem opens_quote (text : String) (rest : List Char) : Opens (quote text ++ rest) :=
  ⟨'"', _, quote_append text rest, by decide⟩

section Steps

variable (fuel : Nat) (rest : List Char)

theorem readValue_null : readValue (fuel + 1) ("null".toList ++ rest) = (.null, some rest) := by
  simp [skipSpace, isSpace, readWord]

theorem readValue_true :
    readValue (fuel + 1) ("true".toList ++ rest) = (.bool true, some rest) := by
  simp [skipSpace, isSpace, readWord]

theorem readValue_false :
    readValue (fuel + 1) ("false".toList ++ rest) = (.bool false, some rest) := by
  simp [skipSpace, isSpace, readWord]

theorem readValue_quote (text : String) :
    readValue (fuel + 1) (quote text ++ rest) = (.string (some text), some rest) := by
  rw [quote_append, readValue, skipSpace_cons (by decide)]
  exact readString_quote text rest

theorem readValue_minus : readValue (fuel + 1) ('-' :: rest) = readNumber true rest := by
  rw [readValue, skipSpace_cons (by decide)]
  rfl

theorem readValue_digit {c : Char} (digit : c.isDigit = true) :
    readValue (fuel + 1) (c :: rest) = readNumber false (c :: rest) := by
  rw [readValue, skipSpace_cons (isSpace_of_isDigit digit)]
  split
  all_goals simp_all

variable {fuel rest}

section Brackets

variable {blank inner after : List Char} (isBlank : IsBlank blank)

include isBlank

theorem readValue_emptyArray :
    readValue (fuel + 1) ('[' :: (blank ++ ']' :: after)) = (.array [] none, some after) := by
  have closed : skipSpace (blank ++ ']' :: after) = ']' :: after :=
    skipSpace_blank_cons isBlank (by decide) after
  rw [readValue, skipSpace_cons (by decide)]
  simp only [closed]

theorem readValue_emptyObject :
    readValue (fuel + 1) ('{' :: (blank ++ '}' :: after)) = (.object [] none, some after) := by
  have closed : skipSpace (blank ++ '}' :: after) = '}' :: after :=
    skipSpace_blank_cons isBlank (by decide) after
  rw [readValue, skipSpace_cons (by decide)]
  simp only [closed]

variable (opens : Opens inner)

include opens

theorem readValue_array {items : List Outline}
    (read : readItems fuel inner = (items, none, some after)) :
    readValue (fuel + 1) ('[' :: (blank ++ inner)) = (.array items none, some after) := by
  have skipped : skipSpace (blank ++ inner) = inner := by
    rw [skipSpace_blank isBlank, opens.skipSpace]
  obtain ⟨c, _, rfl, _, other, _⟩ := opens
  rw [readValue, skipSpace_cons (by decide)]
  simp only [skipped]
  split
  · next closed => cases closed
  · next closed => exact absurd (List.cons.inj closed).1 other
  · rw [read]

theorem readValue_object {members : List (Outline × Outline)}
    (read : readMembers fuel inner = (members, none, some after)) :
    readValue (fuel + 1) ('{' :: (blank ++ inner)) = (.object members none, some after) := by
  have skipped : skipSpace (blank ++ inner) = inner := by
    rw [skipSpace_blank isBlank, opens.skipSpace]
  obtain ⟨c, _, rfl, _, _, other⟩ := opens
  rw [readValue, skipSpace_cons (by decide)]
  simp only [skipped]
  split
  · next closed => cases closed
  · next closed => exact absurd (List.cons.inj closed).1 other
  · rw [read]

end Brackets

theorem readItems_close {text after : List Char} {item : Outline}
    (read : readValue fuel text = (item, some rest)) (closed : skipSpace rest = ']' :: after) :
    readItems (fuel + 1) text = ([item], none, some after) := by
  rw [readItems, read]
  simp only [closed]

theorem readItems_comma {text after : List Char} {item : Outline}
    (read : readValue fuel text = (item, some rest)) (more : skipSpace rest = ',' :: after) :
    readItems (fuel + 1) text =
      (item :: (readItems fuel after).1, (readItems fuel after).2) := by
  rw [readItems, read]
  simp only [more]

variable {blank gap text after : List Char} {value : Outline} (isBlank : IsBlank blank)
  (isGap : IsBlank gap) (read : readValue fuel text = (value, some rest))

include isBlank isGap read

theorem readMembers_close (closed : skipSpace rest = '}' :: after) (key : String) :
    readMembers (fuel + 1) (blank ++ (quote key ++ (gap ++ ':' :: text))) =
      ([(.string (some key), value)], none, some after) := by
  rw [readMembers, skipSpace_blank isBlank, quote_append, skipSpace_cons (by decide)]
  simp only [readString_quote]
  rw [skipSpace_blank_cons isGap (by decide)]
  simp only [read, closed]

theorem readMembers_comma (more : skipSpace rest = ',' :: after) (key : String) :
    readMembers (fuel + 1) (blank ++ (quote key ++ (gap ++ ':' :: text))) =
      ((.string (some key), value) :: (readMembers fuel after).1, (readMembers fuel after).2) := by
  rw [readMembers, skipSpace_blank isBlank, quote_append, skipSpace_cons (by decide)]
  simp only [readString_quote]
  rw [skipSpace_blank_cons isGap (by decide)]
  simp only [read, more]

end Steps

theorem endsNumber_blank {blank : List Char} (isBlank : IsBlank blank) {c : Char}
    (digit : c.isDigit = false) (point : c ≠ '.') (mark : c ≠ 'e' ∧ c ≠ 'E') (text : List Char) :
    EndsNumber (blank ++ c :: text) := by
  cases blank with
  | nil => exact endsNumber_cons digit point mark text
  | cons d blank =>
    have space := isBlank d List.mem_cons_self
    apply endsNumber_cons
    · cases digit : d.isDigit with
      | false => rfl
      | true =>
        rw [isSpace_of_isDigit digit] at space
        cases space
    · rintro rfl
      cases space
    · constructor <;> (rintro rfl; cases space)

theorem readValue_number {value : Number} (word : value.IsWord) {rest : List Char}
    (stop : EndsNumber rest) (fuel : Nat) :
    readValue (fuel + 1) (value.print.toList ++ rest) = (.number (some value), some rest) := by
  match value, word with
  | .integer (.ofNat n), bounds =>
    obtain ⟨c, inner, split, digit⟩ := exists_digits_cons n
    have fits : n ≤ maxSignificand := Int.ofNat_le.1 bounds.2
    have read := readNumber_digits stop false n
    rw [numberOf?_digits fits] at read
    rw [toList_print_ofNat, split, List.cons_append, readValue_digit _ _ digit, ← List.cons_append,
      ← split, read]
    rfl
  | .integer (.negSucc n), bounds =>
    have fits : n + 1 ≤ 0x8000000000000000 := by
      have := bounds.1
      omega
    have read := readNumber_digits stop true (n + 1)
    rw [numberOf?_negative (Nat.succ_pos n) fits] at read
    rw [toList_print_negSucc, List.cons_append, readValue_minus, read]
    rfl

end Json

end CommandSynthesis
