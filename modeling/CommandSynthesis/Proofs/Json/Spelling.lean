import CommandSynthesis.Json.Printer
import CommandSynthesis.Json.Reader

set_option autoImplicit false

/-!
# Spellings of JSON values

The texts that spell a value, with blanks anywhere between the parts. Both forms in which values are
written are spellings. A number is spelled in one way only, as it is printed.
-/

namespace CommandSynthesis

namespace Json

def IsBlank (text : List Char) : Prop :=
  ∀ c ∈ text, isSpace c = true

mutual

/-- The text spells the value and does not begin or end with a blank. -/
def Spells : Json → List Char → Prop
  | .null, text => text = "null".toList
  | .bool true, text => text = "true".toList
  | .bool false, text => text = "false".toList
  | .number value, text => text = value.print.toList
  | .string value, text => text = quote value
  | .array [], text => ∃ blank, IsBlank blank ∧ text = '[' :: (blank ++ [']'])
  | .array (item :: rest), text => ∃ blank word tail, IsBlank blank ∧ Spells item word ∧
      SpellsItems rest tail ∧ text = '[' :: (blank ++ (word ++ (tail ++ [']'])))
  | .object [], text => ∃ blank, IsBlank blank ∧ text = '{' :: (blank ++ ['}'])
  | .object ((key, value) :: rest), text => ∃ blank gap space word tail, IsBlank blank ∧
      IsBlank gap ∧ IsBlank space ∧ Spells value word ∧ SpellsMembers rest tail ∧
      text = '{' :: (blank ++ (quote key ++ (gap ++ ':' :: (space ++ (word ++ (tail ++ ['}']))))))

/-- The text spells items that follow another, up to the bracket behind them. -/
def SpellsItems : List Json → List Char → Prop
  | [], text => IsBlank text
  | item :: rest, text => ∃ before blank word tail, IsBlank before ∧ IsBlank blank ∧
      Spells item word ∧ SpellsItems rest tail ∧ text = before ++ ',' :: (blank ++ (word ++ tail))

/-- The text spells members that follow another, up to the bracket behind them. -/
def SpellsMembers : List (String × Json) → List Char → Prop
  | [], text => IsBlank text
  | (key, value) :: rest, text => ∃ before blank gap space word tail, IsBlank before ∧
      IsBlank blank ∧ IsBlank gap ∧ IsBlank space ∧ Spells value word ∧ SpellsMembers rest tail ∧
      text = before ++ ',' :: (blank ++ (quote key ++ (gap ++ ':' :: (space ++ (word ++ tail)))))

end

theorem isBlank_nil : IsBlank [] := nofun

theorem isBlank_lineBreak (depth : Nat) : IsBlank (lineBreak depth) := by
  intro c member
  rcases List.mem_cons.1 member with rfl | member
  · decide
  · rw [(List.mem_replicate.1 member).2]
    decide

theorem isBlank_space : IsBlank [' '] := by
  intro c member
  rw [List.mem_singleton.1 member]
  decide

mutual

theorem spells_compactChars : ∀ value : Json, Spells value (compactChars value)
  | .null => rfl
  | .bool true => rfl
  | .bool false => rfl
  | .number _ => rfl
  | .string _ => rfl
  | .array [] => ⟨[], isBlank_nil, rfl⟩
  | .array (item :: rest) => by
    refine ⟨[], _, _, isBlank_nil, spells_compactChars item, spellsItems_compactItems rest, ?_⟩
    simp [compactChars]
  | .object [] => ⟨[], isBlank_nil, rfl⟩
  | .object ((key, value) :: rest) => by
    refine ⟨[], [], [], _, _, isBlank_nil, isBlank_nil, isBlank_nil, spells_compactChars value,
      spellsMembers_compactMembers rest, ?_⟩
    simp [compactChars]

theorem spellsItems_compactItems : ∀ items : List Json, SpellsItems items (compactItems items)
  | [] => isBlank_nil
  | item :: rest =>
    ⟨[], [], _, _, isBlank_nil, isBlank_nil, spells_compactChars item,
      spellsItems_compactItems rest, by simp [compactItems]⟩

theorem spellsMembers_compactMembers :
    ∀ members : List (String × Json), SpellsMembers members (compactMembers members)
  | [] => isBlank_nil
  | (key, value) :: rest =>
    ⟨[], [], [], [], _, _, isBlank_nil, isBlank_nil, isBlank_nil, isBlank_nil,
      spells_compactChars value, spellsMembers_compactMembers rest, by simp [compactMembers]⟩

end

mutual

theorem spells_prettyChars (depth : Nat) : ∀ value : Json, Spells value (prettyChars depth value)
  | .null => spells_compactChars .null
  | .bool value => spells_compactChars (.bool value)
  | .number value => spells_compactChars (.number value)
  | .string value => spells_compactChars (.string value)
  | .array [] => spells_compactChars (.array [])
  | .array (item :: rest) => by
    refine ⟨lineBreak (depth + 1), _, _, isBlank_lineBreak _, spells_prettyChars (depth + 1) item,
      spellsItems_prettyItems (depth + 1) (isBlank_lineBreak depth) rest, ?_⟩
    simp [prettyChars]
  | .object [] => spells_compactChars (.object [])
  | .object ((key, value) :: rest) => by
    refine ⟨lineBreak (depth + 1), [], [' '], _, _, isBlank_lineBreak _, isBlank_nil, isBlank_space,
      spells_prettyChars (depth + 1) value,
      spellsMembers_prettyMembers (depth + 1) (isBlank_lineBreak depth) rest, ?_⟩
    simp [prettyChars]

theorem spellsItems_prettyItems (depth : Nat) {last : List Char} (blank : IsBlank last) :
    ∀ items : List Json, SpellsItems items (prettyItems depth items ++ last)
  | [] => blank
  | item :: rest =>
    ⟨[], lineBreak depth, _, _, isBlank_nil, isBlank_lineBreak depth,
      spells_prettyChars depth item, spellsItems_prettyItems depth blank rest,
      by simp [prettyItems]⟩

theorem spellsMembers_prettyMembers (depth : Nat) {last : List Char} (blank : IsBlank last) :
    ∀ members : List (String × Json),
      SpellsMembers members (prettyMembers depth members ++ last)
  | [] => blank
  | (key, value) :: rest =>
    ⟨[], lineBreak depth, [], [' '], _, _, isBlank_nil, isBlank_lineBreak depth, isBlank_nil,
      isBlank_space, spells_prettyChars depth value,
      spellsMembers_prettyMembers depth blank rest, by simp [prettyMembers]⟩

end

theorem spells_compact (value : Json) : Spells value value.compact.toList := by
  rw [compact, String.toList_ofList]
  exact spells_compactChars value

theorem spells_pretty (value : Json) : Spells value value.pretty.toList := by
  rw [pretty, String.toList_ofList]
  exact spells_prettyChars 0 value

end Json

end CommandSynthesis
