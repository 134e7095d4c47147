import CommandSynthesis.Text.Blank
import Mathlib.Data.List.DropRight

set_option autoImplicit false

/-!
# Trimmed texts

Trimming leaves exactly what stands between the blank characters at the two ends of a text. What
neither begins nor ends with a blank character is left as it is.
-/

namespace CommandSynthesis.Text

def AllBlank (text : List Char) : Prop :=
  ∀ c ∈ text, isBlank c = true

/-- No blank character stands at the front of a text or at its end. -/
structure IsTight (text : List Char) : Prop where
  front : ∀ c, text.head? = some c → isBlank c = false
  back : ∀ c, text.getLast? = some c → isBlank c = false

/-- The core stands in the text with only blank characters around it, and none at its own ends. -/
def IsCore (core text : List Char) : Prop :=
  IsTight core ∧ ∃ before after, AllBlank before ∧ AllBlank after ∧ text = before ++ (core ++ after)

theorem trim_eq (text : List Char) :
    trim text = (text.dropWhile isBlank).rdropWhile isBlank := rfl

theorem rdropWhile_append_blank {text after : List Char} (blank : AllBlank after) :
    (text ++ after).rdropWhile isBlank = text.rdropWhile isBlank := by
  rw [List.rdropWhile, List.reverse_append, List.dropWhile_append_of_pos]
  · rfl
  · exact fun c member => blank c (List.mem_reverse.1 member)

theorem IsTight.dropWhile_append {core : List Char} (tight : IsTight core) (after : List Char) :
    (core ++ after).dropWhile isBlank = core ++ after ∨ core = [] := by
  cases core with
  | nil => exact .inr rfl
  | cons c core =>
    left
    rw [List.cons_append, List.dropWhile_cons_of_neg]
    rw [tight.front c rfl]
    exact Bool.false_ne_true

theorem IsTight.rdropWhile {core : List Char} (tight : IsTight core) :
    core.rdropWhile isBlank = core := by
  rw [List.rdropWhile_eq_self_iff]
  intro filled shown
  rw [tight.back _ (List.getLast?_eq_some_getLast filled)] at shown
  cases shown

theorem trim_of_isCore {core text : List Char} (isCore : IsCore core text) : trim text = core := by
  obtain ⟨tight, before, after, blankBefore, blankAfter, rfl⟩ := isCore
  rw [trim_eq, List.dropWhile_append_of_pos blankBefore]
  rcases tight.dropWhile_append after with kept | rfl
  · rw [kept, rdropWhile_append_blank blankAfter, tight.rdropWhile]
  · rw [List.nil_append, List.dropWhile_eq_nil_iff.2 blankAfter]
    rfl

theorem isTight_trim (text : List Char) : IsTight (trim text) := by
  rw [trim_eq]
  constructor
  · intro c head
    obtain ⟨rest, split⟩ := List.rdropWhile_prefix isBlank (l := text.dropWhile isBlank)
    have first : (text.dropWhile isBlank).head? = some c := by
      rw [← split, List.head?_append, head]
      rfl
    have shown := List.head?_dropWhile_not isBlank text
    rw [first] at shown
    exact shown
  · intro c last
    have filled : (text.dropWhile isBlank).rdropWhile isBlank ≠ [] := by
      intro empty
      rw [empty] at last
      cases last
    have shown := List.rdropWhile_last_not isBlank _ filled
    rw [List.getLast?_eq_some_getLast filled, Option.some.injEq] at last
    rwa [last, Bool.not_eq_true] at shown

theorem isCore_trim (text : List Char) : IsCore (trim text) text := by
  refine ⟨isTight_trim text, text.takeWhile isBlank,
    (text.dropWhile isBlank).rtakeWhile isBlank, ?_, ?_, ?_⟩
  · exact fun c member => List.mem_takeWhile_imp member
  · exact fun c member => List.mem_rtakeWhile_imp member
  · rw [trim_eq, List.rdropWhile_append_rtakeWhile, List.takeWhile_append_dropWhile]

end CommandSynthesis.Text
