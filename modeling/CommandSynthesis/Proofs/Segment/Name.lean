import CommandSynthesis.Segment.Name
import Mathlib.Data.List.TakeWhile

set_option autoImplicit false

/-!
# Names by their characters

What a name and a reference are, said of the text alone, and that reading takes exactly these: a
name as far as it goes, and a reference with both its braces.
-/

namespace CommandSynthesis

/-- A character that may begin a name and any number that may go on with it. -/
def IsName (name : List Char) : Prop :=
  ∃ c rest, name = c :: rest ∧ isNameStart c = true ∧ ∀ d ∈ rest, isNameChar d = true

/-- A text begins with a name and goes on with no character that could belong to it. -/
structure LongestName (text name rest : List Char) : Prop where
  split : text = name ++ rest
  isName : IsName name
  longest : ∀ c, rest.head? = some c → isNameChar c = false

theorem isNameChar_of_isNameStart {c : Char} (start : isNameStart c = true) :
    isNameChar c = true := by
  simp only [isNameStart, Bool.or_eq_true] at start
  rcases start with letter | underscore
  · simp [isNameChar, Char.isAlphanum, letter]
  · simp [isNameChar, underscore]

theorem IsName.isNameChar {name : List Char} (isName : IsName name) {c : Char}
    (member : c ∈ name) : isNameChar c = true := by
  obtain ⟨first, rest, rfl, start, all⟩ := isName
  rcases List.mem_cons.1 member with rfl | member
  · exact isNameChar_of_isNameStart start
  · exact all c member

theorem IsName.plain {name : List Char} (isName : IsName name) :
    ∀ c ∈ name, c ≠ '{' ∧ c ≠ '}' := by
  intro c member
  have named := isName.isNameChar member
  constructor <;> rintro rfl <;> exact absurd named (by decide)

theorem longestName_takeWhile {c : Char} (start : isNameStart c = true) (text : List Char) :
    LongestName (c :: text) (c :: text.takeWhile isNameChar) (text.dropWhile isNameChar) where
  split := by rw [List.cons_append, List.takeWhile_append_dropWhile]
  isName := ⟨c, _, rfl, start, fun _ member => List.mem_takeWhile_imp member⟩
  longest d first := by
    have stop := List.head?_dropWhile_not isNameChar text
    rw [first] at stop
    simpa using stop

theorem takeWhile_of_longest {text rest : List Char} (all : ∀ c ∈ text, isNameChar c = true)
    (longest : ∀ c, rest.head? = some c → isNameChar c = false) :
    (text ++ rest).takeWhile isNameChar = text ∧ (text ++ rest).dropWhile isNameChar = rest := by
  rw [List.takeWhile_append_of_pos all, List.dropWhile_append_of_pos all]
  cases rest with
  | nil => exact ⟨List.append_nil text, rfl⟩
  | cons c rest =>
    have stop : ¬ isNameChar c = true := by simp [longest c rfl]
    rw [List.takeWhile_cons_of_neg stop, List.dropWhile_cons_of_neg stop, List.append_nil]
    exact ⟨rfl, rfl⟩

theorem takeName?_eq_some_iff {text name rest : List Char} :
    takeName? text = some (name, rest) ↔ LongestName text name rest := by
  constructor
  · intro taken
    cases text with
    | nil => cases taken
    | cons c tail =>
      simp only [takeName?] at taken
      split at taken
      · next start =>
        cases taken
        exact longestName_takeWhile start tail
      · cases taken
  · rintro ⟨rfl, ⟨c, others, rfl, start, all⟩, longest⟩
    obtain ⟨taken, dropped⟩ := takeWhile_of_longest all longest
    rw [List.cons_append, takeName?, if_pos start, taken, dropped]

theorem takeName?_append {name rest : List Char} {c : Char} (isName : IsName name)
    (stop : isNameChar c = false) : takeName? (name ++ c :: rest) = some (name, c :: rest) := by
  rw [takeName?_eq_some_iff]
  refine ⟨rfl, isName, fun d first => ?_⟩
  cases first
  exact stop

theorem takeReference?_eq_some_iff {text name rest : List Char} :
    takeReference? text = some (name, rest) ↔ IsName name ∧ text = name ++ '}' :: rest := by
  unfold takeReference?
  constructor
  · intro taken
    split at taken
    · next named =>
      cases taken
      obtain ⟨split, isName, _⟩ := takeName?_eq_some_iff.1 named
      exact ⟨isName, split⟩
    · cases taken
  · rintro ⟨isName, rfl⟩
    have stop : isNameChar '}' = false := by decide
    simp only [takeName?_append isName stop]

end CommandSynthesis
