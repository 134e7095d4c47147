import CommandSynthesis.Proofs.Shell.Glyph
import Mathlib.Logic.Function.Defs

set_option autoImplicit false

/-!
# Quoted texts in a command

A quoted text may stand anywhere in a command outside quotes, backslashes and comments. There it
adds exactly its characters to the word at hand, or begins a word with them, and what follows is
read as if it stood outside quotes.
-/

namespace CommandSynthesis.Shell

namespace Place

/-- Whether no word is open. -/
def isOutside : Place → Bool
  | between | betweenEscape | comment => true
  | _ => false

end Place

namespace Reading

/-- Puts a text into the word at hand, or into a new word if none is open. -/
def enter (reading : Reading Char) (text : List Char) : Reading Char :=
  let word := if reading.place.isOutside then [] else reading.word
  ⟨reading.words, word ++ text, .unquoted⟩

/-- The word at hand is empty unless a word is open. -/
def Holds (reading : Reading Char) : Prop :=
  reading.place.isOutside = true → reading.word = []

theorem holds_start : start.Holds := fun _ => rfl

theorem Holds.step {reading : Reading Char} (holds : reading.Holds) (c : Char) :
    (reading.step id c).Holds := by
  unfold Holds Reading.step at *
  cases place : reading.place
  all_goals
    rw [place] at holds
    repeat' split
    all_goals simp_all [moveTo, add, finish, Place.isOutside]

theorem Holds.run {reading : Reading Char} (holds : reading.Holds) (text : List Char) :
    (reading.run id text).Holds := by
  induction text generalizing reading with
  | nil => exact holds
  | cons c text ih => exact ih (holds.step c)

theorem Holds.run_quote {reading : Reading Char} (holds : reading.Holds)
    (plain : reading.place.isPlain = true) (text : List Char) :
    reading.run id (quote text) = reading.enter text := by
  rw [Reading.run_quote id plain, List.map_id]
  unfold enter
  cases place : reading.place with
  | between => rw [holds (by rw [place]; rfl)]; rfl
  | unquoted => rfl
  | _ => rw [place] at plain; cases plain

end Reading

theorem words?_quote (text : List Char) : words? (quote text) = some [text] := by
  rw [words?, Reading.holds_start.run_quote rfl]
  rfl

theorem toList_quoteString (text : String) : (quoteString text).toList = quote text.toList :=
  String.toList_ofList

theorem words?_quoteString (text : String) :
    words? (quoteString text).toList = some [text.toList] := by
  rw [toList_quoteString, words?_quote]

/-- In any command, a quoted text outside quotes, backslashes and comments reads as the text put
into the word there. Alone it is that one word, so that different texts are quoted differently. -/
theorem words?_around_quoteString (text : String) :
    (∀ before after : List Char, (Reading.start.run id before).place.isPlain = true →
      words? (before ++ (quoteString text).toList ++ after) =
        (((Reading.start.run id before).enter text.toList).run id after).words? id) ∧
    words? (quoteString text).toList = some [text.toList] ∧
    Function.Injective quoteString := by
  refine ⟨fun before after plain => ?_, words?_quoteString text, fun left right same => ?_⟩
  · rw [words?, toList_quoteString, Reading.run_append, Reading.run_append,
      (Reading.holds_start.run before).run_quote plain]
  · have words := words?_quoteString left
    rw [same, words?_quoteString right] at words
    have chars := (List.cons.inj (Option.some.inj words)).1
    exact String.toList_inj.1 chars.symm

/-- A quoted text right after `--file=` goes on the word, with its quote and its number sign. -/
theorem words?_around_quoteString_option :
    (Reading.start.run id "sort --file=".toList).place.isPlain = true ∧
      words? ("sort --file=".toList ++ (quoteString "it's #1").toList ++ " -r".toList) =
        some ["sort".toList, "--file=it's #1".toList, "-r".toList] := by
  have plain : (Reading.start.run id "sort --file=".toList).place.isPlain = true := by
    decide +kernel
  refine ⟨plain, ?_⟩
  rw [(words?_around_quoteString "it's #1").1 _ " -r".toList plain]
  decide +kernel

end CommandSynthesis.Shell
