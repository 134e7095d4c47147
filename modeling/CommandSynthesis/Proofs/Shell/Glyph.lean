import CommandSynthesis.Shell.Words

set_option autoImplicit false

/-!
# Words of a command with holes

A glyph is a character of a command or a hole, which stands for a whole text that is not known yet.
The machine that cuts a command into words takes a hole as one letter of the word at hand. Filling
the holes afterwards gives what the machine makes of the command with the quoted texts in place,
provided that every hole is met outside quotes, backslashes and comments.
-/

namespace CommandSynthesis.Shell

inductive Glyph where
  | char (c : Char)
  | hole (name : String)
  deriving DecidableEq, Repr

namespace Glyph

/-- The letters that take the place of a glyph in a word. -/
def fill (texts : String → List Char) : Glyph → List Char
  | char c => [c]
  | hole name => texts name

/-- The characters that take the place of a glyph in a command: a text is quoted. -/
def reveal (texts : String → List Char) : Glyph → List Char
  | char c => [c]
  | hole name => quote (texts name)

theorem fill_char (texts : String → List Char) (c : Char) : (char c).fill texts = [id c] := rfl

def fillWords (texts : String → List Char) (words : List (List Glyph)) : List (List Char) :=
  words.map (·.flatMap (fill texts))

end Glyph

namespace Reading

variable {Letter Letter' : Type}

/-- Reads a glyph. A hole is a letter of the word at hand, and begins one between words. -/
def stepGlyph (reading : Reading Glyph) : Glyph → Reading Glyph
  | .char c => reading.step .char c
  | .hole name =>
    reading.add (.hole name) (if reading.place = .between then .unquoted else reading.place)

def runGlyphs (reading : Reading Glyph) (glyphs : List Glyph) : Reading Glyph :=
  glyphs.foldl stepGlyph reading

/-- Puts letters of another kind in the place of each letter. -/
def expand (letters : Letter → List Letter') (reading : Reading Letter) : Reading Letter' :=
  ⟨reading.words.map (·.flatMap letters), reading.word.flatMap letters, reading.place⟩

/-- No hole is met but outside quotes, backslashes and comments. -/
def HolesPlain (reading : Reading Glyph) (glyphs : List Glyph) : Prop :=
  ∀ before name after, glyphs = before ++ .hole name :: after →
    (reading.runGlyphs before).place.isPlain = true

/-- Checks the holes one after another. -/
def holesPlain (reading : Reading Glyph) : List Glyph → Bool
  | [] => true
  | .char c :: glyphs => (reading.stepGlyph (.char c)).holesPlain glyphs
  | .hole name :: glyphs =>
    reading.place.isPlain && (reading.stepGlyph (.hole name)).holesPlain glyphs

@[simp] theorem run_nil (letter : Char → Letter) (reading : Reading Letter) :
    reading.run letter [] = reading := rfl

@[simp] theorem run_cons (letter : Char → Letter) (reading : Reading Letter) (c : Char)
    (text : List Char) :
    reading.run letter (c :: text) = (reading.step letter c).run letter text := rfl

theorem run_append (letter : Char → Letter) (reading : Reading Letter) (text rest : List Char) :
    reading.run letter (text ++ rest) = (reading.run letter text).run letter rest :=
  List.foldl_append

@[simp] theorem runGlyphs_nil (reading : Reading Glyph) : reading.runGlyphs [] = reading := rfl

@[simp] theorem runGlyphs_cons (reading : Reading Glyph) (glyph : Glyph) (glyphs : List Glyph) :
    reading.runGlyphs (glyph :: glyphs) = (reading.stepGlyph glyph).runGlyphs glyphs := rfl

@[simp] theorem expand_place (letters : Letter → List Letter') (reading : Reading Letter) :
    (reading.expand letters).place = reading.place := rfl

@[simp] theorem expand_start (letters : Letter → List Letter') :
    (start : Reading Letter).expand letters = start := rfl

@[simp] theorem expand_moveTo (letters : Letter → List Letter') (reading : Reading Letter)
    (place : Place) :
    (reading.moveTo place).expand letters = (reading.expand letters).moveTo place := rfl

@[simp] theorem expand_finish (letters : Letter → List Letter') (reading : Reading Letter) :
    reading.finish.expand letters = (reading.expand letters).finish := by
  simp [finish, expand]

theorem expand_add {letters : Letter → List Letter'} {letter : Letter} {letter' : Letter'}
    (single : letters letter = [letter']) (reading : Reading Letter) (place : Place) :
    (reading.add letter place).expand letters = (reading.expand letters).add letter' place := by
  simp [add, expand, single]

/-- Reading a character goes on in the same way whatever the letters of the words are. -/
theorem expand_step {letters : Letter → List Letter'} {letter : Char → Letter}
    {letter' : Char → Letter'} (single : ∀ c, letters (letter c) = [letter' c])
    (reading : Reading Letter) (c : Char) :
    (reading.step letter c).expand letters = (reading.expand letters).step letter' c := by
  have added (reading : Reading Letter) (c : Char) (place : Place) :=
    expand_add (single c) reading place
  unfold step
  cases place : reading.place <;>
    simp only [expand_place, place, apply_ite (expand letters), expand_moveTo, expand_finish, added]

theorem words?_expand {letters : Letter → List Letter'} {letter : Char → Letter}
    {letter' : Char → Letter'} (single : ∀ c, letters (letter c) = [letter' c])
    (reading : Reading Letter) :
    (reading.expand letters).words? letter' =
      (reading.words? letter).map (List.map (·.flatMap letters)) := by
  unfold words?
  cases place : reading.place <;> simp [place, expand, single]

/-- Between single quotes a quoted character reads as itself. -/
theorem run_quoteChar (letter : Char → Letter) {reading : Reading Letter}
    (place : reading.place = .singleQuoted) (c : Char) :
    reading.run letter (quoteChar c) = reading.add (letter c) .singleQuoted := by
  unfold quoteChar
  split
  · next same =>
    subst same
    simp [step, place, moveTo, add]
  · next other => simp [step, place, other]

theorem run_flatMap_quoteChar (letter : Char → Letter) {reading : Reading Letter}
    (place : reading.place = .singleQuoted) (text : List Char) :
    reading.run letter (text.flatMap quoteChar) =
      { reading with word := reading.word ++ text.map letter } := by
  induction text generalizing reading with
  | nil => simp
  | cons c text ih =>
    rw [List.flatMap_cons, run_append, run_quoteChar letter place, ih rfl]
    simp [add, place]

/-- Outside quotes a quoted text adds exactly its characters to the word at hand. -/
theorem run_quote (letter : Char → Letter) {reading : Reading Letter}
    (plain : reading.place.isPlain = true) (text : List Char) :
    reading.run letter (quote text) =
      { reading with word := reading.word ++ text.map letter, place := .unquoted } := by
  have opened : reading.step letter '\'' = reading.moveTo .singleQuoted := by
    cases place : reading.place <;> simp_all [step, Place.isPlain]
  rw [quote, List.cons_append, run_cons, opened, run_append, run_flatMap_quoteChar letter rfl]
  simp [step, moveTo]

/-- A hole in a plain place reads as the quoted text does. -/
theorem expand_stepGlyph_hole (texts : String → List Char) {reading : Reading Glyph}
    (plain : reading.place.isPlain = true) (name : String) :
    (reading.stepGlyph (.hole name)).expand (Glyph.fill texts) =
      (reading.expand (Glyph.fill texts)).run id (quote (texts name)) := by
  rw [run_quote id (by rwa [expand_place])]
  cases place : reading.place <;> simp_all [stepGlyph, add, expand, Glyph.fill, Place.isPlain]

theorem HolesPlain.tail {reading : Reading Glyph} {glyph : Glyph} {glyphs : List Glyph}
    (plain : reading.HolesPlain (glyph :: glyphs)) :
    (reading.stepGlyph glyph).HolesPlain glyphs := by
  intro before name after split
  exact plain (glyph :: before) name after (by rw [split, List.cons_append])

theorem holesPlain_iff {reading : Reading Glyph} {glyphs : List Glyph} :
    reading.holesPlain glyphs = true ↔ reading.HolesPlain glyphs := by
  constructor
  · intro checked before name after split
    induction before generalizing reading glyphs with
    | nil =>
      subst split
      rw [List.nil_append, holesPlain, Bool.and_eq_true] at checked
      exact checked.1
    | cons glyph before ih =>
      subst split
      refine ih ?_ rfl
      cases glyph with
      | char c => exact checked
      | hole other => exact (Bool.and_eq_true _ _ ▸ checked).2
  · intro plain
    induction glyphs generalizing reading with
    | nil => rfl
    | cons glyph glyphs ih =>
      have checked := ih plain.tail
      cases glyph with
      | char c => exact checked
      | hole name =>
        rw [holesPlain, Bool.and_eq_true]
        exact ⟨plain [] name glyphs rfl, checked⟩

instance (reading : Reading Glyph) (glyphs : List Glyph) : Decidable (reading.HolesPlain glyphs) :=
  decidable_of_iff _ holesPlain_iff

/-- The simulation: filling the holes of what was read gives what is read when they are filled. -/
theorem expand_runGlyphs (texts : String → List Char) {reading : Reading Glyph}
    {glyphs : List Glyph} (plain : reading.HolesPlain glyphs) :
    (reading.runGlyphs glyphs).expand (Glyph.fill texts) =
      (reading.expand (Glyph.fill texts)).run id (glyphs.flatMap (Glyph.reveal texts)) := by
  induction glyphs generalizing reading with
  | nil => rfl
  | cons glyph glyphs ih =>
    rw [runGlyphs_cons, ih plain.tail, List.flatMap_cons, run_append]
    congr 1
    cases glyph with
    | char c => exact expand_step (Glyph.fill_char texts) reading c
    | hole name => exact expand_stepGlyph_hole texts (plain [] name glyphs rfl) name

end Reading

def Glyph.words? (glyphs : List Glyph) : Option (List (List Glyph)) :=
  (Reading.start.runGlyphs glyphs).words? .char

/-- Filling the holes of the words gives the words of the command with the quoted texts. -/
theorem words?_reveal (texts : String → List Char) {glyphs : List Glyph}
    (plain : Reading.start.HolesPlain glyphs) :
    words? (glyphs.flatMap (Glyph.reveal texts)) =
      (Glyph.words? glyphs).map (Glyph.fillWords texts) := by
  have simulated := Reading.expand_runGlyphs texts plain
  rw [Reading.expand_start] at simulated
  rw [words?, ← simulated]
  exact Reading.words?_expand (Glyph.fill_char texts) _

end CommandSynthesis.Shell
