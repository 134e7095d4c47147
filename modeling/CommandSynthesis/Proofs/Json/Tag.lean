import CommandSynthesis.Json.Tagged
import CommandSynthesis.Proofs.Json.Recovery

set_option autoImplicit false

/-!
# Reading tagged values

An object whose first member is the tag is decoded as the variant that the tag names, from the
members after it.
-/

namespace CommandSynthesis

theorem Origin.Allows.mono {origin : Origin} {depth more : Nat} (allows : origin.Allows more)
    (le : depth ≤ more) : origin.Allows depth := by
  cases origin with
  | text allowed => exact Nat.le_trans le allows
  | value => trivial
  | aside => trivial

namespace Decoder

open Json Outline

variable {α : Type} {name kind : String} {known : List String} {origin inside : Origin}

theorem setAside_ofJson {value : Json} (allows : origin.Allows value.nesting) :
    setAside origin (ofJson value) = .ok () := by
  cases origin with
  | text depth =>
    rw [setAside, verify_ofJson allows]
    rfl
  | value => rfl
  | aside => rfl

/-- Members other than the tag are set aside as they are. -/
theorem splitTag_others (found : Option String) {members : List (String × Json)}
    (absent : name ∉ keys members) (allows : origin.Allows (nestingMembers members)) :
    splitTag name known origin found (ofMembers members) = .ok (found, ofMembers members) := by
  induction members with
  | nil => rfl
  | cons member rest ih =>
    obtain ⟨key, value⟩ := member
    have other : key ≠ name := fun same => absent (same ▸ List.mem_cons_self)
    have absent : name ∉ keys rest := fun there => absent (List.mem_cons_of_mem key there)
    rw [nestingMembers] at allows
    simp only [ofMembers, splitTag, Decoder.key, bind, Except.bind, if_neg other,
      setAside_ofJson (allows.mono (Nat.le_max_left _ _)),
      ih absent (allows.mono (Nat.le_max_right _ _))]
    rfl

theorem tagged_ofJson {members : List (String × Json)} {expected : String}
    {decode : String → Outline → Except Misfit α} (enter : origin.enter = .ok inside)
    (variant : kind ∈ known) (absent : name ∉ keys members)
    (allows : inside.Allows (nestingMembers members)) :
    tagged expected name known decode origin (ofJson (.object ((name, .string kind) :: members))) =
      decode kind (ofJson (.object members)) := by
  have named : tag known (.string (some kind)) = .ok kind :=
    if_pos (List.contains_iff_mem.2 variant)
  simp only [ofJson, ofMembers, tagged, enter, splitTag, Decoder.key, bind, Except.bind, if_true,
    named, splitTag_others (some kind) absent allows]
  rfl

end Decoder

end CommandSynthesis
