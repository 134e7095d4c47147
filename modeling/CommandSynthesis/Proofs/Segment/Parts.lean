import CommandSynthesis.Proofs.Segment.Name
import CommandSynthesis.Segment.Printer

set_option autoImplicit false

/-!
# Parts of a body

What it means to split a text at its references, said of the parts alone: put together they give
the text, and no text among them is empty, holds a reference or stands next to another. Every text
has exactly one such splitting, which is found from left to right.
-/

namespace CommandSynthesis

/-- A name between braces stands somewhere in the text. -/
def HoldsReference (text : List Char) : Prop :=
  ∃ before name after, IsName name ∧ text = before ++ '{' :: name ++ '}' :: after

namespace Part

/-- The parts are the text split at its references. -/
structure Splits (text : List Char) (parts : List Part) : Prop where
  whole : (printAll parts).toList = text
  isName : ∀ name, .ref name ∈ parts → IsName name.toList
  nonempty : .text "" ∉ parts
  plain : ∀ content, .text content ∈ parts → ¬ HoldsReference content.toList
  apart : ∀ left right, ¬ [.text left, .text right] <:+: parts

/-- Puts a text before parts; it joins a text at the front. -/
def putText (content : String) : List Part → List Part
  | .text more :: parts => .text (content ++ more) :: parts
  | parts => if content = "" then parts else .text content :: parts

/-- The parts of a text, from left to right. -/
def split (text : List Char) : List Part :=
  match text with
  | [] => []
  | c :: rest =>
    if c = '{' then
      match _ : takeReference? rest with
      | some (name, after) => .ref (String.ofList name) :: split after
      | none => putText "\x7b" (split rest)
    else putText (String.singleton c) (split rest)
termination_by text.length
decreasing_by
  · exact Nat.lt_succ_of_lt (length_of_takeReference? ‹_›)
  all_goals exact Nat.lt_succ_self _

end Part

/-- A reference that begins before the end of a text ends there too, if the text holds a closing
brace or what follows it can neither go on with a name nor close a brace. -/
theorem exists_reference_front {text rest name after : List Char} (isName : IsName name)
    (same : text ++ rest = name ++ '}' :: after)
    (stop : '}' ∈ text ∨ ∀ c, rest.head? = some c → isNameChar c = false ∧ c ≠ '}') :
    ∃ more, text = name ++ '}' :: more := by
  rcases List.append_eq_append_iff.1 same with ⟨more, named, following⟩ | ⟨more, rfl, closing⟩
  · -- The text ends within the name, so that what follows it goes on with the name or closes it.
    have outside : '}' ∉ text := fun member =>
      (isName.plain _ (named ▸ List.mem_append_left _ member)).2 rfl
    have stop := stop.resolve_left outside
    cases more with
    | nil => exact absurd rfl (stop '}' (congrArg List.head? following)).2
    | cons c more =>
      have letter : isNameChar c = true := isName.isNameChar (by rw [named]; simp)
      rw [(stop c (congrArg List.head? following)).1] at letter
      cases letter
  · cases more with
    | nil =>
      have stop := stop.resolve_left fun member =>
        (isName.plain _ (by simpa using member)).2 rfl
      exact absurd rfl (stop '}' (congrArg List.head? closing.symm)).2
    | cons c more =>
      cases closing
      exact ⟨more, rfl⟩

theorem takeReference?_append {text rest : List Char}
    (stop : '}' ∈ text ∨ ∀ c, rest.head? = some c → isNameChar c = false ∧ c ≠ '}') :
    takeReference? (text ++ rest) =
      (takeReference? text).map fun (name, after) => (name, after ++ rest) := by
  cases taken : takeReference? text with
  | some found =>
    obtain ⟨isName, rfl⟩ := takeReference?_eq_some_iff.1 taken
    exact takeReference?_eq_some_iff.2 ⟨isName, by simp⟩
  | none =>
    cases longer : takeReference? (text ++ rest) with
    | none => rfl
    | some found =>
      obtain ⟨isName, same⟩ := takeReference?_eq_some_iff.1 longer
      obtain ⟨more, rfl⟩ := exists_reference_front isName same stop
      rw [takeReference?_eq_some_iff.2 ⟨isName, rfl⟩] at taken
      cases taken

theorem holdsReference_cons_iff {c : Char} {text : List Char} :
    HoldsReference (c :: text) ↔
      c = '{' ∧ takeReference? text ≠ none ∨ HoldsReference text := by
  constructor
  · rintro ⟨before, name, after, isName, same⟩
    cases before with
    | nil =>
      cases same
      exact .inl ⟨rfl, by simp [takeReference?_eq_some_iff.2 ⟨isName, rfl⟩]⟩
    | cons d before =>
      cases same
      exact .inr ⟨before, name, after, isName, rfl⟩
  · rintro (⟨rfl, taken⟩ | ⟨before, name, after, isName, rfl⟩)
    · obtain ⟨⟨name, after⟩, taken⟩ := Option.ne_none_iff_exists'.1 taken
      obtain ⟨isName, rfl⟩ := takeReference?_eq_some_iff.1 taken
      exact ⟨[], name, after, isName, rfl⟩
    · exact ⟨c :: before, name, after, isName, rfl⟩

theorem not_holdsReference_nil : ¬ HoldsReference [] := by
  rintro ⟨before, name, after, _, same⟩
  simp at same

/-- Induction on a text, reference by reference and otherwise character by character. -/
theorem reference_induction {motive : List Char → Prop} (nil : motive [])
    (reference : ∀ text name after, takeReference? text = some (name, after) → motive after →
      motive ('{' :: text))
    (char : ∀ c text, (c = '{' → takeReference? text = none) → motive text → motive (c :: text))
    (text : List Char) : motive text := by
  fun_induction Part.split text with
  | case1 => exact nil
  | case2 text name after taken ih => exact reference text name after taken ih
  | case3 text missing ih => exact char '{' text (fun _ => missing) ih
  | case4 c text other ih => exact char c text (fun brace => absurd brace other) ih

namespace Part

theorem split_nil : split [] = [] := by
  rw [split]

theorem split_reference {text name after : List Char}
    (taken : takeReference? text = some (name, after)) :
    split ('{' :: text) = .ref (String.ofList name) :: split after := by
  rw [split, if_pos rfl]
  split <;> simp_all

theorem split_char {c : Char} {text : List Char} (missing : c = '{' → takeReference? text = none) :
    split (c :: text) = putText (String.singleton c) (split text) := by
  rw [split]
  by_cases brace : c = '{'
  · subst brace
    rw [if_pos rfl]
    split <;> simp_all
  · rw [if_neg brace]

@[simp] theorem putText_empty (parts : List Part) : putText "" parts = parts := by
  unfold putText
  split
  · rw [String.empty_append]
  · exact if_pos rfl

theorem putText_append (content rest : String) (parts : List Part) :
    putText (content ++ rest) parts = putText content (putText rest parts) := by
  by_cases empty : rest = ""
  · rw [empty, String.append_empty, putText_empty]
  · cases parts with
    | nil => simp [putText, empty]
    | cons part parts => cases part <;> simp [putText, empty, String.append_assoc]

theorem putText_of_first {content : String} {parts : List Part} (filled : content ≠ "")
    (first : ∀ more rest, parts ≠ .text more :: rest) :
    putText content parts = .text content :: parts := by
  unfold putText
  split
  · exact absurd rfl (first _ _)
  · exact if_neg filled

theorem putText_ref (content name : String) (parts : List Part) :
    putText content (.ref name :: parts) = putText content [] ++ .ref name :: parts := by
  by_cases empty : content = "" <;> simp [putText, empty]

theorem toList_printAll_cons (part : Part) (parts : List Part) :
    (printAll (part :: parts)).toList = part.print.toList ++ (printAll parts).toList := by
  simp [printAll, String.toList_join]

theorem toList_print_ref (name : String) :
    (Part.ref name).print.toList = '{' :: name.toList ++ ['}'] := by
  simp [print, referenceText]

theorem Splits.tail {text : List Char} {part : Part} {parts : List Part}
    (splits : Splits text (part :: parts)) : Splits (printAll parts).toList parts where
  whole := rfl
  isName name member := splits.isName name (List.mem_cons_of_mem part member)
  nonempty member := splits.nonempty (List.mem_cons_of_mem part member)
  plain content member := splits.plain content (List.mem_cons_of_mem part member)
  apart left right adjacent := splits.apart left right (List.infix_cons adjacent)

theorem splits_nil_iff {text : List Char} : Splits text [] ↔ text = [] := by
  constructor
  · exact fun splits => splits.whole.symm
  · rintro rfl
    exact ⟨rfl, nofun, nofun, nofun, by simp⟩

theorem splits_ref_cons_iff {text : List Char} {name : String} {parts : List Part} :
    Splits text (.ref name :: parts) ↔
      IsName name.toList ∧ ∃ rest, text = '{' :: name.toList ++ '}' :: rest ∧ Splits rest parts := by
  constructor
  · intro splits
    refine ⟨splits.isName name List.mem_cons_self, (printAll parts).toList, ?_, splits.tail⟩
    simp [← splits.whole, toList_printAll_cons, toList_print_ref]
  · rintro ⟨named, rest, rfl, whole, isName, nonempty, plain, apart⟩
    refine ⟨?_, ?_, by simpa using nonempty, by simpa using plain, ?_⟩
    · simp [toList_printAll_cons, toList_print_ref, whole]
    · rintro other member
      rcases List.mem_cons.1 member with same | member
      · cases same
        exact named
      · exact isName other member
    · simpa [List.infix_cons_iff] using apart

theorem splits_text_cons_iff {text : List Char} {content : String} {parts : List Part} :
    Splits text (.text content :: parts) ↔
      content ≠ "" ∧ ¬ HoldsReference content.toList ∧ (∀ more rest, parts ≠ .text more :: rest) ∧
        ∃ rest, text = content.toList ++ rest ∧ Splits rest parts := by
  constructor
  · intro splits
    refine ⟨?_, splits.plain content List.mem_cons_self, ?_, (printAll parts).toList, ?_, splits.tail⟩
    · rintro rfl
      exact splits.nonempty List.mem_cons_self
    · rintro more rest rfl
      exact splits.apart content more ⟨[], rest, rfl⟩
    · rw [← splits.whole, toList_printAll_cons, print]
  · rintro ⟨filled, closed, single, rest, rfl, whole, isName, nonempty, plain, apart⟩
    refine ⟨?_, by simpa using isName, by simpa [filled.symm] using nonempty, ?_, ?_⟩
    · rw [toList_printAll_cons, print, whole]
    · rintro other member
      rcases List.mem_cons.1 member with same | member
      · cases same
        exact closed
      · exact plain other member
    · rintro left right adjacent
      rcases List.infix_cons_iff.1 adjacent with front | inside
      · obtain ⟨-, rest, rfl⟩ := List.cons_prefix_cons.1 front
        exact single right rest rfl
      · exact apart left right inside

theorem Splits.char {c : Char} {text : List Char} {parts : List Part}
    (missing : c = '{' → takeReference? text = none) (splits : Splits text parts) :
    Splits (c :: text) (putText (String.singleton c) parts) := by
  have filled : String.singleton c ≠ "" := by simp
  by_cases first : ∃ more rest, parts = .text more :: rest
  · obtain ⟨content, parts, rfl⟩ := first
    obtain ⟨_, closed, single, rest, rfl, inner⟩ := splits_text_cons_iff.1 splits
    refine splits_text_cons_iff.2 ⟨by simp, ?_, single, rest, by simp, inner⟩
    rw [String.toList_append, String.toList_singleton, List.singleton_append,
      holdsReference_cons_iff]
    -- A reference that the longer text held at its front would begin at the character.
    rintro (⟨brace, taken⟩ | inside)
    · obtain ⟨⟨name, after⟩, taken⟩ := Option.ne_none_iff_exists'.1 taken
      obtain ⟨isName, same⟩ := takeReference?_eq_some_iff.1 taken
      have longer : takeReference? (content.toList ++ rest) = some (name, after ++ rest) :=
        takeReference?_eq_some_iff.2 ⟨isName, by simp [same]⟩
      simp [missing brace] at longer
    · exact closed inside
  · have single : ∀ more rest, parts ≠ .text more :: rest :=
      fun more rest same => first ⟨more, rest, same⟩
    rw [putText_of_first filled single]
    refine splits_text_cons_iff.2 ⟨filled, ?_, single, text, by simp, splits⟩
    rw [String.toList_singleton, holdsReference_cons_iff]
    rintro (⟨_, taken⟩ | inside)
    · exact taken rfl
    · exact not_holdsReference_nil inside

/-- The parts found from left to right are the text split at its references. -/
theorem splits_split (text : List Char) : Splits text (split text) := by
  induction text using reference_induction with
  | nil => rw [split_nil, splits_nil_iff]
  | reference text name after taken ih =>
    obtain ⟨isName, rfl⟩ := takeReference?_eq_some_iff.1 taken
    rw [split_reference taken, splits_ref_cons_iff, String.toList_ofList]
    exact ⟨isName, after, rfl, ih⟩
  | char c text missing ih =>
    rw [split_char missing]
    exact ih.char missing

/-- What follows a text among the parts is nothing or an opening brace. -/
theorem Splits.stop {text : List Char} {parts : List Part} (splits : Splits text parts)
    (single : ∀ more rest, parts ≠ .text more :: rest) :
    ∀ c, text.head? = some c → isNameChar c = false ∧ c ≠ '}' := by
  intro c first
  cases parts with
  | nil =>
    rw [splits_nil_iff.1 splits] at first
    cases first
  | cons part parts =>
    cases part with
    | text content => exact absurd rfl (single content parts)
    | ref name =>
      obtain ⟨_, rest, rfl, _⟩ := splits_ref_cons_iff.1 splits
      cases first
      decide

/-- A text without references joins the first part of what follows it, if no reference can begin
before the end of the text and end after it. -/
theorem split_append {content rest : List Char} (closed : ¬ HoldsReference content)
    (stop : ∀ c, rest.head? = some c → isNameChar c = false ∧ c ≠ '}') :
    split (content ++ rest) = putText (String.ofList content) (split rest) := by
  induction content with
  | nil => simp
  | cons c content ih =>
    rw [holdsReference_cons_iff, not_or] at closed
    have missing : c = '{' → takeReference? (content ++ rest) = none := fun brace => by
      have missing : takeReference? content = none :=
        Classical.not_not.1 fun taken => closed.1 ⟨brace, taken⟩
      simp [takeReference?_append (.inr stop), missing]
    rw [List.cons_append, split_char missing, ih closed.2, ← putText_append]
    simp [String.ofList_cons]

/-- There is no other way to split a text at its references. -/
theorem Splits.split_eq {text : List Char} {parts : List Part} (splits : Splits text parts) :
    split text = parts := by
  induction parts generalizing text with
  | nil => rw [splits_nil_iff.1 splits, split_nil]
  | cons part parts ih =>
    cases part with
    | ref name =>
      obtain ⟨isName, rest, rfl, inner⟩ := splits_ref_cons_iff.1 splits
      have taken : takeReference? (name.toList ++ '}' :: rest) = some (name.toList, rest) :=
        takeReference?_eq_some_iff.2 ⟨isName, rfl⟩
      rw [List.cons_append, split_reference taken, ih inner, String.ofList_toList]
    | text content =>
      obtain ⟨filled, closed, single, rest, rfl, inner⟩ := splits_text_cons_iff.1 splits
      rw [split_append closed (inner.stop single), ih inner, String.ofList_toList,
        putText_of_first filled single]

end Part

end CommandSynthesis
