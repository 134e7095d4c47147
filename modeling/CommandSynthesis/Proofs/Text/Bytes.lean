set_option autoImplicit false

/-!
# Characters by bytes

A text whose bytes are all below 128 has one character for each byte. Its characters are then known
without decoding, which by evaluation takes much longer than reading the bytes.
-/

namespace CommandSynthesis.Text

def bytes (text : String) : List UInt8 :=
  text.toByteArray.data.toList

def ofByte (byte : UInt8) : Char :=
  Char.ofNat byte.toNat

/-- The characters of a text, read off its bytes where these are all below 128. -/
def characters (text : String) : List Char :=
  if (bytes text).all (· < 128) then (bytes text).map ofByte else text.toList

theorem bytes_ofList (characters : List Char) :
    bytes (String.ofList characters) = characters.flatMap String.utf8EncodeChar := by
  rw [bytes, String.toByteArray_ofList, List.utf8Encode, List.toList_data_toByteArray]

/-- A character that is not one byte begins with a byte from 128 on. -/
theorem map_ofByte_utf8EncodeChar {c : Char}
    (low : (String.utf8EncodeChar c).all (· < 128) = true) :
    (String.utf8EncodeChar c).map ofByte = [c] := by
  by_cases single : c.val ≤ 127
  · rw [String.utf8EncodeChar_eq_singleton (Char.utf8Size_eq_one_iff.2 single)]
    have small : c.val.toNat ≤ 127 := UInt32.le_iff_toNat_le.1 single
    have same : c.val.toUInt8.toNat = c.toNat := by
      rw [UInt32.toNat_toUInt8]
      exact Nat.mod_eq_of_lt (Nat.lt_of_le_of_lt small (by decide))
    rw [List.map_singleton, ofByte, same, Char.ofNat_toNat]
  · exfalso
    have large : ¬ c.val.toNat ≤ 127 := fun le => single (UInt32.le_iff_toNat_le.2 le)
    unfold String.utf8EncodeChar at low
    simp only [large, if_false] at low
    split at low
    · simp [UInt8.lt_iff_toNat_lt] at low
      omega
    · split at low
      · simp [UInt8.lt_iff_toNat_lt] at low
        omega
      · simp [UInt8.lt_iff_toNat_lt] at low
        omega

theorem characters_eq_toList (text : String) : characters text = text.toList := by
  unfold characters
  split
  · next low =>
    obtain ⟨content, rfl⟩ : ∃ content, text = String.ofList content :=
      ⟨text.toList, String.ofList_toList.symm⟩
    rw [bytes_ofList] at low ⊢
    rw [String.toList_ofList]
    induction content with
    | nil => rfl
    | cons c content ih =>
      rw [List.flatMap_cons, List.all_append, Bool.and_eq_true] at low
      rw [List.flatMap_cons, List.map_append, map_ofByte_utf8EncodeChar low.1, ih low.2]
      rfl
  · rfl

end CommandSynthesis.Text
