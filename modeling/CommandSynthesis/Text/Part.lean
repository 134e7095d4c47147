set_option autoImplicit false

/-!
# Parts of texts

Whether a text occurs in another as an unbroken run of characters; and places in a text counted in
the bytes of its characters before them, with the parts between places. No part begins or ends
inside a character.
-/

namespace CommandSynthesis.Text

/-! ## Occurrence -/

def occursIn (needle : List Char) : List Char → Bool
  | [] => needle.isEmpty
  | c :: rest => needle.isPrefixOf (c :: rest) || occursIn needle rest

theorem occursIn_iff {needle text : List Char} :
    occursIn needle text = true ↔ ∃ before after, text = before ++ needle ++ after := by
  induction text with
  | nil =>
    simp only [occursIn, List.isEmpty_iff]
    constructor
    · rintro rfl; exact ⟨[], [], rfl⟩
    · rintro ⟨before, after, h⟩
      simp only [List.append_assoc, List.nil_eq, List.append_eq_nil_iff] at h
      exact h.2.1
  | cons c rest ih =>
    simp only [occursIn, Bool.or_eq_true, List.isPrefixOf_iff_prefix, ih]
    constructor
    · rintro (⟨after, h⟩ | ⟨before, after, rfl⟩)
      · exact ⟨[], after, h.symm⟩
      · exact ⟨c :: before, after, rfl⟩
    · rintro ⟨before, after, h⟩
      cases before with
      | nil => exact .inl ⟨after, h.symm⟩
      | cons d before =>
        simp only [List.cons_append, List.cons.injEq] at h
        exact .inr ⟨before, after, h.2⟩

/-! ## Places -/

def byteLength : List Char → Nat
  | [] => 0
  | c :: rest => c.utf8Size + byteLength rest

/-- The text before a place and the text from it on. -/
def splitAtByte? : Nat → List Char → Option (List Char × List Char)
  | 0, text => some ([], text)
  | _ + 1, [] => none
  | place + 1, c :: rest =>
    if c.utf8Size ≤ place + 1 then
      (splitAtByte? (place + 1 - c.utf8Size) rest).map fun (before, after) => (c :: before, after)
    else none

def partFrom? (text : List Char) (start : Nat) : Option (List Char) :=
  (splitAtByte? start text).map (·.2)

/-- The text from a place to a later one. -/
def part? (text : List Char) (start stop : Nat) : Option (List Char) := do
  let after ← partFrom? text start
  let (before, _) ← splitAtByte? (stop - start) after
  return before

end CommandSynthesis.Text
