import CommandSynthesis.Proofs.Json.Numeral

set_option autoImplicit false

/-!
# Spellings are read

Every text that spells a value is read as the outline of that value, whatever follows the text, as
long as no number goes on in it. What each number is read as enters as the reading of its text
alone: an integer of 64 bits is read as itself, and every other number as some real, or it is beyond
all reals.
-/

namespace CommandSynthesis

open Json

/-- What the text of a number is read as; none when it is beyond all reals. -/
def Number.reread (value : Number) : Option Number :=
  match (readValue 1 value.print.toList).1 with
  | .number found => found
  | _ => none

theorem Number.reread_spec (value : Number) :
    (value.reread = some value ∨ ¬ value.IsWord ∧ Json.IsReal value.reread) ∧
      ∀ fuel {rest : List Char}, EndsNumber rest →
        readValue (fuel + 1) (value.print.toList ++ rest) = (.number value.reread, some rest) := by
  obtain ⟨found, known, read⟩ := exists_readValue_print value
  have alone := read 0 endsNumber_nil
  rw [List.append_nil] at alone
  have same : value.reread = found := by rw [reread, alone]
  rw [same]
  exact ⟨known, read⟩

theorem Number.reread_of_isWord {value : Number} (word : value.IsWord) :
    value.reread = some value :=
  value.reread_spec.1.resolve_right fun other => other.1 word

namespace Outline

mutual

/-- What a text that spells the value is read as. -/
def reread : Json → Outline
  | .null => .null
  | .bool value => .bool value
  | .number value => .number value.reread
  | .string value => .string (some value)
  | .array items => .array (rereadItems items) none
  | .object members => .object (rereadMembers members) none

def rereadItems : List Json → List Outline
  | [] => []
  | item :: rest => reread item :: rereadItems rest

def rereadMembers : List (String × Json) → List (Outline × Outline)
  | [] => []
  | (key, value) :: rest => (.string (some key), reread value) :: rereadMembers rest

end

end Outline

namespace Json

open Outline

theorem Spells.opens {value : Json} {text : List Char} (spells : Spells value text) :
    Opens text := by
  cases value with
  | null => exact ⟨'n', _, spells, by decide⟩
  | bool value => cases value <;> exact ⟨_, _, spells, by decide⟩
  | string value => exact ⟨'"', _, spells, by decide⟩
  | number value =>
    cases spells
    exact opens_print value
  | array items =>
    cases items with
    | nil =>
      obtain ⟨_, _, rfl⟩ := spells
      exact ⟨'[', _, rfl, by decide⟩
    | cons item rest =>
      obtain ⟨_, _, _, _, _, _, rfl⟩ := spells
      exact ⟨'[', _, rfl, by decide⟩
  | object members =>
    cases members with
    | nil =>
      obtain ⟨_, _, rfl⟩ := spells
      exact ⟨'{', _, rfl, by decide⟩
    | cons member rest =>
      obtain ⟨_, _, _, _, _, _, _, _, _, _, rfl⟩ := spells
      exact ⟨'{', _, rfl, by decide⟩

/-- No number goes on in what follows an item. -/
theorem SpellsItems.endsNumber {items : List Json} {text : List Char}
    (spells : SpellsItems items text) (after : List Char) :
    EndsNumber (text ++ ']' :: after) := by
  cases items with
  | nil => exact endsNumber_blank spells rfl (by decide) (by decide) after
  | cons item rest =>
    obtain ⟨before, blank, word, tail, isBefore, _, _, _, rfl⟩ := spells
    rw [List.append_assoc, List.cons_append]
    exact endsNumber_blank isBefore rfl (by decide) (by decide) _

theorem SpellsMembers.endsNumber {members : List (String × Json)} {text : List Char}
    (spells : SpellsMembers members text) (after : List Char) :
    EndsNumber (text ++ '}' :: after) := by
  cases members with
  | nil => exact endsNumber_blank spells rfl (by decide) (by decide) after
  | cons member rest =>
    obtain ⟨before, blank, gap, space, word, tail, isBefore, _, _, _, _, _, rfl⟩ := spells
    rw [List.append_assoc, List.cons_append]
    exact endsNumber_blank isBefore rfl (by decide) (by decide) _

mutual

/-- A text that spells a value is read as the outline of the value. -/
theorem readValue_of_spells : ∀ {value : Json} {text : List Char}, Spells value text →
    ∀ (fuel : Nat), text.length ≤ fuel → ∀ {rest : List Char}, EndsNumber rest →
      readValue fuel (text ++ rest) = (reread value, some rest)
  | value, text, spells, 0, enough, rest, stop => by
    obtain ⟨c, inner, rfl, _⟩ := spells.opens
    cases enough
  | .null, _, spells, fuel + 1, enough, rest, stop => by
    cases spells
    exact readValue_null fuel rest
  | .bool true, _, spells, fuel + 1, enough, rest, stop => by
    cases spells
    exact readValue_true fuel rest
  | .bool false, _, spells, fuel + 1, enough, rest, stop => by
    cases spells
    exact readValue_false fuel rest
  | .number value, _, spells, fuel + 1, enough, rest, stop => by
    cases spells
    exact value.reread_spec.2 fuel stop
  | .string value, _, spells, fuel + 1, enough, rest, stop => by
    cases spells
    exact readValue_quote fuel rest value
  | .array [], _, spells, fuel + 1, enough, rest, stop => by
    obtain ⟨blank, isBlank, rfl⟩ := spells
    rw [List.cons_append, List.append_assoc]
    exact readValue_emptyArray isBlank
  | .array (item :: items), _, spells, fuel + 1, enough, rest, stop => by
    obtain ⟨blank, word, tail, isBlank, first, others, rfl⟩ := spells
    simp only [List.length_cons, List.length_append] at enough
    have split : blank ++ (word ++ (tail ++ [']'])) ++ rest =
        blank ++ (word ++ (tail ++ ']' :: rest)) := by simp
    have opens : Opens (word ++ (tail ++ ']' :: rest)) := first.opens.append _
    rw [List.cons_append, split]
    apply readValue_array isBlank opens
    cases fuel with
    | zero => omega
    | succ fuel =>
      have read := readValue_of_spells first fuel (by omega) (others.endsNumber rest)
      exact readItems_of_spells others (by omega) read
  | .object [], _, spells, fuel + 1, enough, rest, stop => by
    obtain ⟨blank, isBlank, rfl⟩ := spells
    rw [List.cons_append, List.append_assoc]
    exact readValue_emptyObject isBlank
  | .object ((key, value) :: members), _, spells, fuel + 1, enough, rest, stop => by
    obtain ⟨blank, gap, space, word, tail, isBlank, isGap, isSpace, first, others, rfl⟩ := spells
    simp only [List.length_cons, List.length_append] at enough
    have split :
        blank ++ (quote key ++ (gap ++ ':' :: (space ++ (word ++ (tail ++ ['}']))))) ++ rest =
          blank ++ (quote key ++ (gap ++ ':' :: (space ++ (word ++ (tail ++ '}' :: rest))))) := by
      simp
    have opens : Opens (quote key ++ (gap ++ ':' :: (space ++ (word ++ (tail ++ '}' :: rest))))) :=
      opens_quote key _
    rw [List.cons_append, split]
    apply readValue_object isBlank opens
    cases fuel with
    | zero => omega
    | succ fuel =>
      have read := readValue_of_spells first fuel (by omega) (others.endsNumber rest)
      exact readMembers_of_spells others (by omega) isBlank_nil isGap
        ((readValue_blank isSpace fuel _).trans read)

/-- The items that follow one are read after it. -/
theorem readItems_of_spells : ∀ {items : List Json} {tail : List Char}, SpellsItems items tail →
    ∀ {fuel : Nat}, tail.length ≤ fuel → ∀ {text after : List Char} {item : Outline},
      readValue fuel text = (item, some (tail ++ ']' :: after)) →
        readItems (fuel + 1) text = (item :: rereadItems items, none, some after)
  | [], _, spells, fuel, enough, text, after, item, read => by
    exact readItems_close read (skipSpace_blank_cons spells (by decide) after)
  | other :: items, _, spells, fuel, enough, text, after, item, read => by
    obtain ⟨before, blank, word, tail, isBefore, isBlank, first, others, rfl⟩ := spells
    simp only [List.length_cons, List.length_append] at enough
    have split : before ++ ',' :: (blank ++ (word ++ tail)) ++ ']' :: after =
        before ++ ',' :: (blank ++ (word ++ (tail ++ ']' :: after))) := by simp
    rw [split] at read
    rw [readItems_comma read (skipSpace_blank_cons isBefore (by decide) _)]
    cases fuel with
    | zero => omega
    | succ fuel =>
      have inner := readValue_of_spells first fuel (by omega) (others.endsNumber after)
      rw [readItems_of_spells others (by omega) ((readValue_blank isBlank fuel _).trans inner)]
      rfl

/-- The members that follow one are read after it. -/
theorem readMembers_of_spells : ∀ {members : List (String × Json)} {tail : List Char},
    SpellsMembers members tail → ∀ {fuel : Nat}, tail.length ≤ fuel →
      ∀ {blank gap text after : List Char} {key : String} {value : Outline}, IsBlank blank →
        IsBlank gap → readValue fuel text = (value, some (tail ++ '}' :: after)) →
          readMembers (fuel + 1) (blank ++ (quote key ++ (gap ++ ':' :: text))) =
            ((.string (some key), value) :: rereadMembers members, none, some after)
  | [], _, spells, fuel, enough, blank, gap, text, after, key, value, isBlank, isGap, read => by
    exact readMembers_close isBlank isGap read (skipSpace_blank_cons spells (by decide) after) key
  | (other, item) :: members, _, spells, fuel, enough, blank, gap, text, after, key, value, isBlank,
      isGap, read => by
    obtain ⟨before, blank', gap', space, word, tail, isBefore, isBlank', isGap', isSpace, first,
      others, rfl⟩ := spells
    simp only [List.length_cons, List.length_append] at enough
    have split : before ++ ',' :: (blank' ++ (quote other ++ (gap' ++ ':' :: (space ++ (word ++
        tail))))) ++ '}' :: after = before ++ ',' :: (blank' ++ (quote other ++ (gap' ++ ':' ::
        (space ++ (word ++ (tail ++ '}' :: after)))))) := by simp
    rw [split] at read
    rw [readMembers_comma isBlank isGap read (skipSpace_blank_cons isBefore (by decide) _)]
    cases fuel with
    | zero => omega
    | succ fuel =>
      have inner := readValue_of_spells first fuel (by omega) (others.endsNumber after)
      rw [readMembers_of_spells others (by omega) isBlank' isGap'
        ((readValue_blank isSpace fuel _).trans inner)]
      rfl

end

/-! ## Values with integers of 64 bits -/

mutual

/-- All numbers in the value are integers of 64 bits. -/
def IsIntegral : Json → Prop
  | .number value => value.IsWord
  | .array items => AreIntegral items
  | .object members => HaveIntegral members
  | .null | .bool _ | .string _ => True

def AreIntegral : List Json → Prop
  | [] => True
  | item :: rest => IsIntegral item ∧ AreIntegral rest

def HaveIntegral : List (String × Json) → Prop
  | [] => True
  | (_, value) :: rest => IsIntegral value ∧ HaveIntegral rest

end

mutual

theorem reread_of_isIntegral : ∀ {value : Json}, IsIntegral value → reread value = ofJson value
  | .null, _ => rfl
  | .bool _, _ => rfl
  | .number _, word => by rw [reread, Number.reread_of_isWord word, ofJson]
  | .string _, _ => rfl
  | .array _, integral => by rw [reread, rereadItems_of_areIntegral integral, ofJson]
  | .object _, integral => by rw [reread, rereadMembers_of_haveIntegral integral, ofJson]

theorem rereadItems_of_areIntegral :
    ∀ {items : List Json}, AreIntegral items → rereadItems items = ofItems items
  | [], _ => rfl
  | _ :: _, ⟨first, others⟩ => by
    rw [rereadItems, reread_of_isIntegral first, rereadItems_of_areIntegral others, ofItems]

theorem rereadMembers_of_haveIntegral :
    ∀ {members : List (String × Json)}, HaveIntegral members →
      rereadMembers members = ofMembers members
  | [], _ => rfl
  | (_, _) :: _, ⟨first, others⟩ => by
    rw [rereadMembers, reread_of_isIntegral first, rereadMembers_of_haveIntegral others, ofMembers]

end

end Json

end CommandSynthesis
