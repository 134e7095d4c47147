import CommandSynthesis.Proofs.Json.Record
import CommandSynthesis.Proofs.Time.RoundTrip
import CommandSynthesis.Synthesis.Codec

set_option autoImplicit false

/-!
# Synthesized commands read back

What is written for a synthesized command is decoded to the same command, with every text and the
moment at which it was made.
-/

namespace CommandSynthesis

open Json

theorem Instant.makes_decode (depth : Nat) (instant : Instant) :
    Decoder.Makes Instant.decode depth instant.encode instant := by
  rintro origin _ _ rfl
  simp only [encode, Outline.ofJson, decode, read_print]
  rfl

theorem Json.isIntegral_ofStrings (texts : List String) : IsIntegral (ofStrings texts) := by
  induction texts with
  | nil => trivial
  | cons text texts ih => exact ⟨trivial, ih⟩

theorem Json.isDistinct_ofStrings (texts : List String) : IsDistinct (ofStrings texts) := by
  induction texts with
  | nil => trivial
  | cons text texts ih => exact ⟨trivial, ih⟩

theorem Json.nesting_ofStrings (texts : List String) : (ofStrings texts).nesting = 1 := by
  have flat : nestingItems (texts.map .string) = 0 := by
    induction texts with
    | nil => rfl
    | cons text texts ih => simp [nestingItems, nesting, ih]
  rw [ofStrings, nesting, flat]

theorem Decoder.makes_ofStrings (depth : Nat) (texts : List String) :
    Makes (list Decoder.string) (depth + 1) (ofStrings texts) texts :=
  makes_list fun text _ => makes_string depth text

namespace Synthesis

theorem isIntegral_encode (synthesis : Synthesis) : IsIntegral synthesis.encode :=
  ⟨trivial, trivial, isIntegral_ofStrings _, trivial, trivial, trivial⟩

theorem isDistinct_encode (synthesis : Synthesis) : IsDistinct synthesis.encode :=
  ⟨by simp [keys], trivial, trivial, isDistinct_ofStrings _, trivial, trivial, trivial⟩

theorem makes_decode (synthesis : Synthesis) :
    Decoder.Makes decode 2 synthesis.encode synthesis := by
  refine Decoder.makes_record _ (by simp [fields, Field.optional]) ?_
  rintro origin others allows ⟨command, valid, errors, createdAt, templateId, _⟩
  have command := (Decoder.makes_string 1 _).gives allows command
  have valid := (Decoder.makes_bool 1 _).gives allows valid
  have errors := (Decoder.makes_ofStrings 0 _).gives allows errors
  have createdAt := (Instant.makes_decode 1 _).gives allows createdAt
  have templateId := (Decoder.makes_string 1 _).gives allows templateId
  simp only [fields, List.forall_mem_cons]
  refine ⟨⟨command.fits_optional, valid.fits_optional, errors.fits_optional,
    createdAt.fits_optional, templateId.fits_optional, List.forall_mem_nil _⟩, ?_⟩
  rintro ⟨_, values⟩ rfl ⟨look₁, look₂, look₃, look₄, look₅, _⟩
  simp only [command.get look₁, valid.get look₂, errors.get look₃, createdAt.get look₄,
    templateId.get look₅, bind, Except.bind, pure, Except.pure]

end Synthesis

end CommandSynthesis
