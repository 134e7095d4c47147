import CommandSynthesis.Proofs.Unicode.CodeRanges
import CommandSynthesis.Text.Case

set_option autoImplicit false

/-!
# Lower case in context

The lower case of a text inside another is that of the text alone, but for capital sigmas: a sigma
ends a word or does not, and what stands around the text may decide that. Such a sigma is loose.
When there is none, the lower case of a text is the same everywhere; and when there is one, a letter
before the text or behind it is enough to change it.
-/

namespace CommandSynthesis.Text

open Unicode

variable {front back before after text : List Char} {c : Char}

/-! ## Cased letters -/

/-- Whether the first character that is not passed over is of a kind. -/
def leads (passed kind : Char → Bool) (text : List Char) : Bool :=
  match text.dropWhile passed with
  | [] => false
  | c :: _ => kind c

theorem leads_cons {passed kind : Char → Bool} (stays : passed c = false) (rest : List Char) :
    leads passed kind (c :: rest) = kind c := by
  simp [leads, stays]

theorem leads_append (passed kind : Char → Bool) (front back : List Char) :
    leads passed kind (front ++ back) =
      if front.all passed then leads passed kind back else leads passed kind front := by
  induction front with
  | nil => rfl
  | cons c front ih =>
    cases skipped : passed c with
    | true => simpa [leads, skipped] using ih
    | false => simp [leads_cons, skipped]

def isIgnorable (c : Char) : Bool :=
  Recent.caseIgnorable.contains c.toNat

def isCased (c : Char) : Bool :=
  Recent.cased.contains c.toNat

theorem startsCased_eq : startsCased = leads isIgnorable isCased := rfl

theorem startsCased_append (front back : List Char) :
    startsCased (front ++ back) =
      if front.all isIgnorable then startsCased back else startsCased front := by
  rw [startsCased_eq]
  exact leads_append _ _ front back

theorem startsCased_of_ignorable (ignorable : front.all isIgnorable = true) :
    startsCased front = false := by
  have alone := startsCased_append front []
  rwa [List.append_nil, if_pos ignorable] at alone

/-! ## Sigmas -/

/-- Whether a sigma between two texts, of which the first is given in reverse, ends a word. -/
def endsWord (before after : List Char) : Bool :=
  startsCased before && !startsCased after

theorem lowerChar_sigma (before after : List Char) :
    lowerChar before 'Σ' after = [if endsWord before after then 'ς' else 'σ'] :=
  if_pos rfl

/-- The lower case of a character that is not a sigma, or of one that stands alone. -/
def lowerAlone (c : Char) : List Char :=
  lowerChar [] c []

theorem lowerChar_of_ne (other : c ≠ 'Σ') (before after : List Char) :
    lowerChar before c after = lowerAlone c := by
  unfold lowerAlone lowerChar
  rw [if_neg other, if_neg other]

theorem length_lowerChar (before after : List Char) :
    (lowerChar before c after).length = (lowerAlone c).length := by
  by_cases sigma : c = 'Σ'
  · subst sigma
    rw [lowerAlone, lowerChar_sigma, lowerChar_sigma]
    rfl
  · rw [lowerChar_of_ne sigma]

theorem lowerChar_eq_iff {other around : List Char} :
    lowerChar before c after = lowerChar other c around ↔
      (c = 'Σ' → endsWord before after = endsWord other around) := by
  by_cases sigma : c = 'Σ'
  · subst sigma
    rw [lowerChar_sigma, lowerChar_sigma]
    cases endsWord before after <;> cases endsWord other around <;> simp
  · simp [sigma, lowerChar_of_ne sigma]

/-- The lower case of a text between two others, of which the first is given in reverse. -/
def lowerWithin (before after : List Char) : List Char → List Char
  | [] => []
  | c :: rest => lowerChar before c (rest ++ after) ++ lowerWithin (c :: before) after rest

theorem lowerFrom_append (before text after : List Char) :
    lowerFrom before (text ++ after) =
      lowerWithin before after text ++ lowerFrom (text.reverse ++ before) after := by
  induction text generalizing before with
  | nil => rfl
  | cons c text ih =>
    rw [List.cons_append, lowerFrom, ih, lowerWithin, List.append_assoc, List.reverse_cons,
      List.append_assoc, List.singleton_append]

theorem lowerFrom_eq_lowerWithin (before text : List Char) :
    lowerFrom before text = lowerWithin before [] text := by
  have whole := lowerFrom_append before text []
  rwa [List.append_nil, lowerFrom, List.append_nil] at whole

theorem lower_eq_lowerWithin (text : List Char) : lower text = lowerWithin [] [] text :=
  lowerFrom_eq_lowerWithin [] text

theorem lowerWithin_of_notMem (absent : 'Σ' ∉ text) (before after : List Char) :
    lowerWithin before after text = text.flatMap lowerAlone := by
  induction text generalizing before with
  | nil => rfl
  | cons c text ih =>
    rw [List.mem_cons, not_or] at absent
    rw [lowerWithin, lowerChar_of_ne (Ne.symm absent.1), ih absent.2, List.flatMap_cons]

/-- The lower case of a text with one sigma. -/
theorem lower_sigma (opens : 'Σ' ∉ front) (closes : 'Σ' ∉ back) :
    lower (front ++ 'Σ' :: back) =
      front.flatMap lowerAlone ++
        (if endsWord front.reverse back then 'ς' else 'σ') :: back.flatMap lowerAlone := by
  rw [lower, lowerFrom_append, lowerWithin_of_notMem opens, lowerFrom, lowerChar_sigma,
    lowerFrom_eq_lowerWithin, lowerWithin_of_notMem closes, List.append_nil]
  rfl

/-- The lower case of a text is found in that of a longer one as it is there. -/
theorem lower_append (front text back : List Char) :
    lower (front ++ text ++ back) =
      lowerWithin [] (text ++ back) front ++ lowerWithin front.reverse back text ++
        lowerFrom (text.reverse ++ front.reverse) back := by
  rw [lower, List.append_assoc, lowerFrom_append, lowerFrom_append, List.append_nil,
    List.append_assoc]

theorem length_lowerWithin (before after text : List Char) :
    (lowerWithin before after text).length = (text.flatMap lowerAlone).length := by
  induction text generalizing before with
  | nil => rfl
  | cons c text ih =>
    rw [lowerWithin, List.length_append, length_lowerChar, ih, List.flatMap_cons,
      List.length_append]

theorem forall_split_cons_iff {holds : List Char → List Char → Prop} :
    (∀ front back, c :: text = front ++ 'Σ' :: back → holds front back) ↔
      (c = 'Σ' → holds [] text) ∧
        ∀ front back, text = front ++ 'Σ' :: back → holds (c :: front) back := by
  constructor
  · intro all
    refine ⟨?_, fun front back split => all (c :: front) back (by rw [split, List.cons_append])⟩
    intro sigma
    exact all [] text (by rw [sigma, List.nil_append])
  · intro both front back split
    cases front with
    | nil =>
      obtain ⟨rfl, rfl⟩ := List.cons_eq_cons.mp split
      exact both.1 rfl
    | cons d front =>
      obtain ⟨rfl, rfl⟩ := List.cons_eq_cons.mp split
      exact both.2 front back rfl

/-- Two places give a text the same lower case when each sigma ends a word in both or in neither. -/
theorem lowerWithin_eq_iff {other around : List Char} :
    lowerWithin before after text = lowerWithin other around text ↔
      ∀ front back, text = front ++ 'Σ' :: back →
        endsWord (front.reverse ++ before) (back ++ after) =
          endsWord (front.reverse ++ other) (back ++ around) := by
  induction text generalizing before other with
  | nil => simp [lowerWithin]
  | cons c text ih =>
    have lengths : (lowerChar before c (text ++ after)).length =
        (lowerChar other c (text ++ around)).length := by
      rw [length_lowerChar, length_lowerChar other]
    rw [lowerWithin, lowerWithin, List.append_eq_append_iff_of_size_eq_left lengths,
      lowerChar_eq_iff, ih, forall_split_cons_iff]
    simp only [List.reverse_nil, List.nil_append, List.reverse_cons, List.append_assoc,
      List.singleton_append]

/-! ## Loose sigmas -/

/-- What stands around two texts decides whether a sigma between them ends a word. -/
def Loose (front back : List Char) : Prop :=
  (front.all isIgnorable = true ∧ startsCased back = false) ∨
    (startsCased front.reverse = true ∧ back.all isIgnorable = true)

theorem endsWord_of_not_loose (tight : ¬ Loose front back) (before after : List Char) :
    endsWord (front.reverse ++ before) (back ++ after) = endsWord front.reverse back := by
  rw [Loose, not_or] at tight
  obtain ⟨opens, closes⟩ := tight
  unfold endsWord
  rw [startsCased_append, startsCased_append, List.all_reverse]
  cases ignorable : front.all isIgnorable with
  | true =>
    have cased : startsCased back = true :=
      eq_true_of_ne_false fun quiet => opens ⟨ignorable, quiet⟩
    have inner : back.all isIgnorable = false := by
      refine eq_false_of_ne_true fun ignored => ?_
      rw [startsCased_of_ignorable ignored] at cased
      cases cased
    simp [cased, inner]
  | false =>
    cases cased : startsCased front.reverse with
    | false => rfl
    | true =>
      have inner : back.all isIgnorable = false :=
        eq_false_of_ne_true fun ignored => closes ⟨cased, ignored⟩
      simp [inner]

/-- Either all cased letters in front of a text decide of a loose sigma in it, or all behind it. -/
theorem endsWord_ne_of_loose (loose : Loose front back) :
    (∀ c, startsCased [c] = true →
      endsWord (front.reverse ++ [c]) back ≠ endsWord front.reverse back) ∨
    (∀ c, startsCased [c] = true →
      endsWord front.reverse (back ++ [c]) ≠ endsWord front.reverse back) := by
  unfold endsWord
  rcases loose with ⟨ignorable, quiet⟩ | ⟨word, ignorable⟩
  · refine .inl fun c cased => ?_
    have none : startsCased front.reverse = false :=
      startsCased_of_ignorable (List.all_reverse.trans ignorable)
    rw [startsCased_append, List.all_reverse]
    simp [ignorable, quiet, none, cased]
  · refine .inr fun c cased => ?_
    have none := startsCased_of_ignorable ignorable
    rw [startsCased_append]
    simp [ignorable, word, none, cased]

/-- Without loose sigmas a text has the same lower case wherever it stands. -/
theorem lowerWithin_eq_lower
    (tight : ∀ front back, text = front ++ 'Σ' :: back → ¬ Loose front back)
    (before after : List Char) : lowerWithin before after text = lower text := by
  rw [lower_eq_lowerWithin]
  refine lowerWithin_eq_iff.mpr fun front back split => ?_
  rw [List.append_nil, List.append_nil]
  exact endsWord_of_not_loose (tight front back split) before after

theorem lowerWithin_ne_lower (split : text = front ++ 'Σ' :: back) (loose : Loose front back) :
    (∀ c, startsCased [c] = true → lowerWithin [c] [] text ≠ lower text) ∨
      (∀ c, startsCased [c] = true → lowerWithin [] [c] text ≠ lower text) := by
  rw [lower_eq_lowerWithin]
  rcases endsWord_ne_of_loose loose with changed | changed
  · refine .inl fun c cased same => changed c cased ?_
    simpa using lowerWithin_eq_iff.mp same front back split
  · refine .inr fun c cased same => changed c cased ?_
    simpa using lowerWithin_eq_iff.mp same front back split

/-! ## Two letters -/

theorem proper_cased : CodeRanges.Proper Property.cased := by
  unfold Property.cased Property.lowercase Property.uppercase Property.otherLowercase
    Property.otherUppercase Category.lowercaseLetter Category.uppercaseLetter
    Category.titlecaseLetter CodeRanges.ofTable
  repeat rw [String.toList_ofList]
  decide +kernel

section Letters

variable {letter : Char} (capital : letter = 'Ο' ∨ letter = 'Τ')

include capital

theorem not_isIgnorable : isIgnorable letter = false := by
  unfold isIgnorable Recent.caseIgnorable Recent.addedMarks Property.caseIgnorable Property.midWord
    Category.nonspacingMark Category.enclosingMark Category.format Category.modifierLetter
    Category.modifierSymbol CodeRanges.ofTable
  repeat rw [String.toList_ofList]
  rcases capital with rfl | rfl
  · decide +kernel
  · decide +kernel

theorem contains_cased : Property.cased.contains letter.toNat = true := by
  unfold Property.cased Property.lowercase Property.uppercase Property.otherLowercase
    Property.otherUppercase Category.lowercaseLetter Category.uppercaseLetter
    Category.titlecaseLetter CodeRanges.ofTable
  repeat rw [String.toList_ofList]
  rcases capital with rfl | rfl
  · decide +kernel
  · decide +kernel

/-- Both letters are cased in the recent standard as they were before. -/
theorem isCased_letter : isCased letter = true := by
  have valid : letter.toNat ≤ CodeRanges.maxCode ∧
      CodeRanges.contains [(0x295, 0x295)] letter.toNat = false := by
    rcases capital with rfl | rfl
    · decide
    · decide
  obtain ⟨valid, kept⟩ := valid
  rw [isCased, Recent.cased, CodeRanges.contains_append,
    CodeRanges.contains_difference proper_cased (by decide) valid, kept, contains_cased capital]
  rfl

theorem startsCased_letter (rest : List Char) : startsCased (letter :: rest) = true := by
  rw [startsCased_eq, leads_cons (not_isIgnorable capital), isCased_letter capital]

end Letters

end CommandSynthesis.Text
