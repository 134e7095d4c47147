import CommandSynthesis.Proofs.Text.Bytes

set_option autoImplicit false

/-!
# Places in encoded texts

The bytes of a text, one character after another, and the places between its characters. A place can
be told by the byte behind it, and the byte at a place is the character behind it as far as ASCII
goes; all other characters begin with a byte that is no ASCII character.
-/

namespace CommandSynthesis.Text

def encode (text : List Char) : List UInt8 :=
  text.flatMap String.utf8EncodeChar

/-- The characters that bytes encode, if they do. -/
def decode? (bytes : List UInt8) : Option (List Char) :=
  bytes.toByteArray.utf8Decode?.map Array.toList

/-- Bytes that do not begin a character. -/
def isContinuation (byte : UInt8) : Bool :=
  0x80 ≤ byte && byte < 0xC0

/-- Whether a place is the end of the bytes or has a byte behind it that begins a character. -/
def isBoundary (bytes : List UInt8) (place : Nat) : Bool :=
  place == bytes.length || bytes[place]?.any fun byte => !isContinuation byte

@[simp] theorem encode_nil : encode [] = [] := rfl

@[simp] theorem encode_cons (c : Char) (text : List Char) :
    encode (c :: text) = String.utf8EncodeChar c ++ encode text := List.flatMap_cons

@[simp] theorem encode_append (text rest : List Char) :
    encode (text ++ rest) = encode text ++ encode rest := List.flatMap_append

theorem bytes_eq_encode (text : String) : bytes text = encode text.toList := by
  rw [← String.ofList_toList (s := text), bytes_ofList, String.toList_ofList]
  rfl

theorem decode?_encode (text : List Char) : decode? (encode text) = some text := by
  have read := List.utf8Decode?_utf8Encode (l := text)
  rw [List.utf8Encode] at read
  rw [decode?, encode, read]
  rfl

/-- A character is one byte of its own number, or begins with a byte beyond ASCII that begins
nothing else. -/
theorem utf8EncodeChar_cases (c : Char) :
    (∃ byte, String.utf8EncodeChar c = [byte] ∧ ofByte byte = c ∧ byte.toNat < 128) ∨
      (128 ≤ c.toNat ∧ ∃ byte tail, String.utf8EncodeChar c = byte :: tail ∧
        192 ≤ byte.toNat) := by
  have same : c.val.toNat = c.toNat := rfl
  unfold String.utf8EncodeChar
  rw [same]
  by_cases one : c.toNat ≤ 0x7f
  · left
    have small : (UInt8.ofNat c.toNat).toNat = c.toNat := by
      rw [UInt8.toNat_ofNat']
      omega
    refine ⟨UInt8.ofNat c.toNat, if_pos one, ?_, by omega⟩
    rw [ofByte, small, Char.ofNat_toNat]
  · right
    refine ⟨by omega, ?_⟩
    simp only [one, if_false]
    split
    · exact ⟨_, _, rfl, by rw [UInt8.toNat_ofNat']; omega⟩
    · split
      · exact ⟨_, _, rfl, by rw [UInt8.toNat_ofNat']; omega⟩
      · exact ⟨_, _, rfl, by rw [UInt8.toNat_ofNat']; omega⟩

theorem toNat_ofByte (byte : UInt8) : (ofByte byte).toNat = byte.toNat := by
  have valid : byte.toNat.isValidChar := .inl (by have := byte.toNat_lt; omega)
  rw [ofByte, Char.ofNat, dif_pos valid]
  rfl

theorem isContinuation_of_small {byte : UInt8} (small : byte.toNat < 128) :
    isContinuation byte = false := by
  simp [isContinuation, UInt8.le_iff_toNat_le]
  omega

theorem isContinuation_of_large {byte : UInt8} (large : 192 ≤ byte.toNat) :
    isContinuation byte = false := by
  simp [isContinuation, UInt8.lt_iff_toNat_lt]
  omega

/-! ## The byte at a place -/

section Places

variable (before : List Char)

theorem getElem?_encode_end : (encode before)[(encode before).length]? = none :=
  List.getElem?_eq_none (Nat.le_refl _)

/-- Behind a place stands the first byte of the character there. -/
theorem getElem?_encode (c : Char) (rest : List Char) :
    ∃ byte, (encode (before ++ c :: rest))[(encode before).length]? = some byte ∧
      isContinuation byte = false ∧
      (ofByte byte = c ∨ 128 ≤ c.toNat ∧ 128 ≤ (ofByte byte).toNat) := by
  rw [encode_append, encode_cons, List.getElem?_append_right (Nat.le_refl _), Nat.sub_self]
  rcases utf8EncodeChar_cases c with ⟨byte, bytes, same, small⟩ | ⟨large, byte, tail, bytes, high⟩
  · rw [bytes]
    exact ⟨byte, rfl, isContinuation_of_small small, .inl same⟩
  · rw [bytes]
    refine ⟨byte, rfl, isContinuation_of_large high, .inr ⟨large, ?_⟩⟩
    rw [toNat_ofByte]
    omega

theorem isBoundary_encode (rest : List Char) :
    isBoundary (encode (before ++ rest)) (encode before).length = true := by
  rw [isBoundary, Bool.or_eq_true]
  cases rest with
  | nil => left; rw [List.append_nil, beq_self_eq_true]
  | cons c rest =>
    right
    obtain ⟨byte, found, begins, _⟩ := getElem?_encode before c rest
    rw [found, Option.any_some, begins]
    rfl

theorem decode?_between (inner after : List Char) :
    decode? (((encode (before ++ (inner ++ after))).take (encode (before ++ inner)).length).drop
      (encode before).length) = some inner := by
  rw [← List.append_assoc, encode_append (before ++ inner), List.take_left, encode_append,
    List.drop_left, decode?_encode]

end Places

end CommandSynthesis.Text
