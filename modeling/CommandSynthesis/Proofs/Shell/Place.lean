import CommandSynthesis.Proofs.Shell.Glyph

set_option autoImplicit false

/-!
# Places of a command with holes

Where the reading of a command stands depends on where it stood before, and not on the words that
were read. So it can be followed for all texts that may come next at once, as a list of places.
-/

namespace CommandSynthesis.Shell

namespace Place

def isQuoted : Place → Bool
  | singleQuoted | doubleQuoted | doubleQuotedEscape => true
  | _ => false

/-- Nothing read yet but that the reading stands here. -/
def reading (place : Place) : Reading Glyph :=
  ⟨[], [], place⟩

def after (place : Place) (glyphs : List Glyph) : Place :=
  (place.reading.runGlyphs glyphs).place

/-- Whether no hole of the glyphs is met but outside quotes, backslashes and comments. -/
def admits (place : Place) (glyphs : List Glyph) : Bool :=
  place.reading.holesPlain glyphs

/-- The places after any of the texts, from any of the places. -/
def reach (places : List Place) (texts : List (List Glyph)) : List Place :=
  (places.flatMap fun place => texts.map place.after).eraseDups

theorem after_mem_reach {places : List Place} {texts : List (List Glyph)} {place : Place}
    {text : List Glyph} (here : place ∈ places) (possible : text ∈ texts) :
    place.after text ∈ reach places texts := by
  rw [reach, List.mem_eraseDups]
  exact List.mem_flatMap.2 ⟨place, here, List.mem_map_of_mem possible⟩

end Place

namespace Reading

theorem place_stepGlyph_congr {left right : Reading Glyph} (same : left.place = right.place)
    (glyph : Glyph) : (left.stepGlyph glyph).place = (right.stepGlyph glyph).place := by
  cases glyph with
  | hole name => simp only [stepGlyph, add, same]
  | char c =>
    simp only [stepGlyph, step, same]
    cases place : right.place <;>
      simp only [apply_ite Reading.place, moveTo, finish, add, same, place]

theorem place_runGlyphs_congr {left right : Reading Glyph} (same : left.place = right.place)
    (glyphs : List Glyph) : (left.runGlyphs glyphs).place = (right.runGlyphs glyphs).place := by
  induction glyphs generalizing left right with
  | nil => exact same
  | cons glyph glyphs ih => exact ih (place_stepGlyph_congr same glyph)

theorem holesPlain_congr {left right : Reading Glyph} (same : left.place = right.place)
    (glyphs : List Glyph) : left.holesPlain glyphs = right.holesPlain glyphs := by
  induction glyphs generalizing left right with
  | nil => rfl
  | cons glyph glyphs ih =>
    have rest := ih (place_stepGlyph_congr same glyph)
    cases glyph with
    | char c => exact rest
    | hole name => rw [holesPlain, holesPlain, same, rest]

theorem place_runGlyphs (reading : Reading Glyph) (glyphs : List Glyph) :
    (reading.runGlyphs glyphs).place = reading.place.after glyphs := by
  have same : reading.place = reading.place.reading.place := rfl
  exact place_runGlyphs_congr same glyphs

theorem holesPlain_of_admits {reading : Reading Glyph} {glyphs : List Glyph}
    (admitted : reading.place.admits glyphs = true) : reading.HolesPlain glyphs := by
  have same : reading.place = reading.place.reading.place := rfl
  rw [← holesPlain_iff, holesPlain_congr same]
  exact admitted

theorem runGlyphs_append (reading : Reading Glyph) (glyphs rest : List Glyph) :
    reading.runGlyphs (glyphs ++ rest) = (reading.runGlyphs glyphs).runGlyphs rest :=
  List.foldl_append

theorem holesPlain_append (reading : Reading Glyph) (glyphs rest : List Glyph) :
    reading.holesPlain (glyphs ++ rest) =
      (reading.holesPlain glyphs && (reading.runGlyphs glyphs).holesPlain rest) := by
  induction glyphs generalizing reading with
  | nil => rfl
  | cons glyph glyphs ih =>
    cases glyph with
    | char c => exact ih _
    | hole name =>
      rw [List.cons_append, holesPlain, holesPlain, ih, Bool.and_assoc]
      rfl

theorem holesPlain_append_iff {reading : Reading Glyph} {glyphs rest : List Glyph} :
    reading.HolesPlain (glyphs ++ rest) ↔
      reading.HolesPlain glyphs ∧ (reading.runGlyphs glyphs).HolesPlain rest := by
  rw [← holesPlain_iff, ← holesPlain_iff, ← holesPlain_iff, holesPlain_append, Bool.and_eq_true]

/-- Words are read unless a quote is open. -/
theorem exists_words?_iff {Letter : Type} (letter : Char → Letter) (reading : Reading Letter) :
    (∃ words, reading.words? letter = some words) ↔ reading.place.isQuoted = false := by
  unfold words?
  cases reading.place <;> simp [Place.isQuoted]

end Reading

/-- The place after the characters of a command. -/
def placeAfter (command : List Char) : Place :=
  (Reading.start.run id command).place

theorem placeAfter_reveal (texts : String → List Char) {glyphs : List Glyph}
    (plain : Reading.start.HolesPlain glyphs) :
    placeAfter (glyphs.flatMap (Glyph.reveal texts)) = (Reading.start.runGlyphs glyphs).place := by
  have simulated := Reading.expand_runGlyphs texts plain
  rw [Reading.expand_start] at simulated
  rw [placeAfter, ← simulated, Reading.expand_place]

end CommandSynthesis.Shell
