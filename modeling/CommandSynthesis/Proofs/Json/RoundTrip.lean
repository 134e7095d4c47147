import CommandSynthesis.Json.Decoder
import CommandSynthesis.Proofs.Json.Reading

set_option autoImplicit false

/-!
# Written values are read back

A document that spells a value is read as the outline of the value. When the numbers of the value
are integers of 64 bits and it is not nested too deeply, it is parsed as the value with the members
of its objects sorted.
-/

namespace CommandSynthesis

open Json Outline

namespace Json

mutual

/-- How many brackets stand inside one another. -/
def nesting : Json → Nat
  | .array items => nestingItems items + 1
  | .object members => nestingMembers members + 1
  | _ => 0

def nestingItems : List Json → Nat
  | [] => 0
  | item :: rest => max (nesting item) (nestingItems rest)

def nestingMembers : List (String × Json) → Nat
  | [] => 0
  | (_, value) :: rest => max (nesting value) (nestingMembers rest)

end

end Json

namespace Outline

mutual

theorem verify_ofJson {depth : Nat} :
    ∀ {value : Json}, value.nesting ≤ depth → verify depth (ofJson value) = .ok ()
  | .null, _ => rfl
  | .bool _, _ => rfl
  | .number _, _ => rfl
  | .string _, _ => rfl
  | .array items, shallow => by
    cases depth with
    | zero => cases shallow
    | succ depth =>
      rw [ofJson, verify, verifyItems_ofItems (Nat.le_of_succ_le_succ shallow)]
      rfl
  | .object members, shallow => by
    cases depth with
    | zero => cases shallow
    | succ depth =>
      rw [ofJson, verify, verifyMembers_ofMembers (Nat.le_of_succ_le_succ shallow)]
      rfl

theorem verifyItems_ofItems {depth : Nat} :
    ∀ {items : List Json}, nestingItems items ≤ depth → verifyItems depth (ofItems items) = .ok ()
  | [], _ => rfl
  | item :: rest, shallow => by
    obtain ⟨first, others⟩ := Nat.max_le.1 shallow
    rw [ofItems, verifyItems, verify_ofJson first, verifyItems_ofItems others]
    rfl

theorem verifyMembers_ofMembers {depth : Nat} :
    ∀ {members : List (String × Json)}, nestingMembers members ≤ depth →
      verifyMembers depth (ofMembers members) = .ok ()
  | [], _ => rfl
  | (key, value) :: rest, shallow => by
    obtain ⟨first, others⟩ := Nat.max_le.1 shallow
    rw [ofMembers, verifyMembers, verify_ofJson first, verifyMembers_ofMembers others]
    rfl

end

mutual

theorem toJson_ofJson : ∀ value : Json, (ofJson value).toJson = value.sorted
  | .null => rfl
  | .bool _ => rfl
  | .number _ => rfl
  | .string _ => rfl
  | .array items => by rw [ofJson, toJson, toItems_ofItems items, sorted]
  | .object members => by rw [ofJson, toJson, toMembers_ofMembers [] members, sorted]

theorem toItems_ofItems : ∀ items : List Json, toItems (ofItems items) = sortedItems items
  | [] => rfl
  | item :: rest => by rw [ofItems, toItems, toJson_ofJson item, toItems_ofItems rest, sortedItems]

theorem toMembers_ofMembers (done : List (String × Json)) :
    ∀ members : List (String × Json),
      toMembers done (ofMembers members) = sortedMembers done members
  | [] => rfl
  | (key, value) :: rest => by
    rw [ofMembers, toMembers, toJson_ofJson value, toMembers_ofMembers _ rest, sortedMembers]

end

end Outline

theorem Document.read_of_spells {value : Json} {text : String} (spells : Spells value text.toList) :
    Document.read text = ⟨reread value, none⟩ := by
  have read := readValue_of_spells spells (2 * text.toList.length + 2) (by omega) endsNumber_nil
  rw [List.append_nil] at read
  simp only [Document.read, read]
  rfl

theorem Json.parse_of_spells {value : Json} {text : String} (integral : IsIntegral value)
    (spells : Spells value text.toList) (shallow : value.nesting ≤ maxDepth) :
    parse text = .ok value.sorted := by
  rw [← toJson_ofJson]
  simp only [parse, Document.read_of_spells spells, reread_of_isIntegral integral,
    verify_ofJson shallow]
  rfl

theorem Decoder.ofText_of_spells {α : Type} {value : Json} {text : String}
    (spells : Spells value text.toList) (decoder : Decoder α) :
    decoder.ofText text = decoder (.text maxDepth) (reread value) := by
  simp only [Decoder.ofText, Document.read_of_spells spells]
  cases decoder (.text maxDepth) (reread value) <;> rfl

theorem Decoder.ofText_of_isIntegral {α : Type} {value : Json} {text : String}
    (integral : IsIntegral value) (spells : Spells value text.toList) (decoder : Decoder α) :
    decoder.ofText text = decoder (.text maxDepth) (ofJson value) := by
  rw [ofText_of_spells spells, reread_of_isIntegral integral]

end CommandSynthesis
