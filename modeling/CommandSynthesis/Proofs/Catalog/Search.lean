import CommandSynthesis.Proofs.Catalog.Registration
import CommandSynthesis.Proofs.Text.Case

set_option autoImplicit false

/-!
# Searching

A search gives templates in the order in which they were registered. It is to find all templates in
which the query occurs as it is written, since case does not count. That it does for all queries
without a loose sigma, and for no others: a text can hold the query and have another sigma in lower
case than the query has.
-/

namespace CommandSynthesis

open Text

/-- A query occurs in a text of the template as it is written. -/
def Template.Mentions (template : Template) (query : String) : Prop :=
  ∃ text ∈ [template.id, template.name, template.description], query.toList <:+: text.toList

namespace Catalog

variable {catalog : Catalog} {template : Template} {query : String}

theorem occursIn_iff_isInfix {text : String} :
    Catalog.occursIn query text = true ↔ lower query.toList <:+: lower text.toList := by
  rw [Catalog.occursIn, Text.occursIn_iff]
  exact ⟨fun ⟨before, after, split⟩ => ⟨before, after, split.symm⟩,
    fun ⟨before, after, split⟩ => ⟨before, after, split.symm⟩⟩

theorem mem_search_iff :
    template ∈ catalog.search query ↔ template ∈ catalog.templates ∧
      ∃ text ∈ [template.id, template.name, template.description],
        lower query.toList <:+: lower text.toList := by
  simp [search, occursIn_iff_isInfix, or_assoc]

/-- Whatever was registered, a search finds all templates in which the query occurs. -/
def NeverMisses (query : String) : Prop :=
  ∀ (catalog : Catalog), ∀ template ∈ catalog.templates,
    template.Mentions query → template ∈ catalog.search query

/-- No place at which the query may occur decides of a sigma in it. -/
def Settled (query : String) : Prop :=
  ∀ front back, query.toList = front ++ 'Σ' :: back → ¬ Loose front back

theorem neverMisses_of_settled (settled : Settled query) : NeverMisses query := by
  intro catalog template member ⟨text, listed, front, back, occurs⟩
  refine mem_search_iff.mpr ⟨member, text, listed, ?_⟩
  rw [← occurs, lower_append, lowerWithin_eq_lower settled]
  exact ⟨_, _, rfl⟩

/-! ## Missed texts -/

section Infix

variable {needle tail : List Char} {c : Char}

theorem eq_of_isInfix_of_length {text : List Char} (occurs : needle <:+: text)
    (length : text.length = needle.length + 1) :
    ∃ c, text = c :: needle ∨ text = needle ++ [c] := by
  obtain ⟨before, after, rfl⟩ := occurs
  simp only [List.length_append] at length
  cases before with
  | nil =>
    obtain ⟨c, rfl⟩ := List.length_eq_one_iff.mp (show after.length = 1 by simpa using length)
    exact ⟨c, .inr rfl⟩
  | cons c before =>
    simp only [List.length_cons] at length
    obtain rfl : before = [] := List.eq_nil_of_length_eq_zero (by omega)
    obtain rfl : after = [] := List.eq_nil_of_length_eq_zero (by omega)
    exact ⟨c, .inl (List.append_nil _)⟩

theorem not_isInfix_cons (length : tail.length = needle.length) (other : tail ≠ needle)
    (head : needle.head? ≠ some c) : ¬ needle <:+: c :: tail := by
  intro occurs
  obtain ⟨d, same | same⟩ := eq_of_isInfix_of_length occurs (by simp [length])
  · exact other (List.cons_eq_cons.mp same).2
  · cases needle with
    | nil => exact other (List.eq_nil_of_length_eq_zero length)
    | cons e needle => exact head (congrArg some (List.cons_eq_cons.mp same).1.symm)

theorem not_isInfix_concat (length : tail.length = needle.length) (other : tail ≠ needle)
    (last : needle.getLast? ≠ some c) : ¬ needle <:+: tail ++ [c] := by
  intro occurs
  rw [← List.reverse_infix, List.reverse_append, List.reverse_singleton] at occurs
  refine not_isInfix_cons ?_ ?_ ?_ occurs
  · simp [length]
  · simpa using other
  · rwa [List.head?_reverse]

end Infix

theorem lower_letter {before after : List Char} :
    lowerChar before 'Ο' after = ['ο'] ∧ lowerChar before 'Τ' after = ['τ'] := by
  constructor
  · rw [lowerChar_of_ne (by decide)]
    decide +kernel
  · rw [lowerChar_of_ne (by decide)]
    decide +kernel

/-- Of two letters with different lower cases one is not the given character in lower case. -/
theorem exists_letter (found : Option Char) :
    ∃ letter small, (∀ rest, startsCased (letter :: rest) = true) ∧
      (∀ before after, lowerChar before letter after = [small]) ∧ found ≠ some small := by
  by_cases taken : found = some 'ο'
  · refine ⟨'Τ', 'τ', startsCased_letter (.inr rfl), fun _ _ => lower_letter.2, ?_⟩
    rw [taken]
    decide
  · exact ⟨'Ο', 'ο', startsCased_letter (.inl rfl), fun _ _ => lower_letter.1, taken⟩

/-- With a letter in front of it or behind it, a query with a loose sigma is not found. -/
theorem exists_missed {front back : List Char} (split : query.toList = front ++ 'Σ' :: back)
    (loose : Loose front back) :
    ∃ text : String, query.toList <:+: text.toList ∧
      ¬ lower query.toList <:+: lower text.toList := by
  have length (before after : List Char) :
      (lowerWithin before after query.toList).length = (lower query.toList).length := by
    rw [lower_eq_lowerWithin, length_lowerWithin, length_lowerWithin]
  rcases lowerWithin_ne_lower split loose with changed | changed
  · obtain ⟨letter, small, cased, lowered, apart⟩ := exists_letter (lower query.toList).head?
    have whole : lower (letter :: query.toList) =
        small :: lowerWithin [letter] [] query.toList := by
      simpa [lowerWithin, lowered, lowerFrom] using lower_append [letter] query.toList []
    refine ⟨String.ofList (letter :: query.toList), ?_, ?_⟩
    · rw [String.toList_ofList]
      exact ⟨[letter], [], List.append_nil _⟩
    · rw [String.toList_ofList, whole]
      exact not_isInfix_cons (length _ _) (changed letter (cased [])) apart
  · obtain ⟨letter, small, cased, lowered, apart⟩ := exists_letter (lower query.toList).getLast?
    have whole : lower (query.toList ++ [letter]) =
        lowerWithin [] [letter] query.toList ++ [small] := by
      simpa [lowerWithin, lowered, lowerFrom] using lower_append [] query.toList [letter]
    refine ⟨String.ofList (query.toList ++ [letter]), ?_, ?_⟩
    · rw [String.toList_ofList]
      exact ⟨[], [letter], rfl⟩
    · rw [String.toList_ofList, whole]
      exact not_isInfix_concat (length _ _) (changed letter (cased [])) apart

theorem mem_templates_register (catalog : Catalog) (template : Template) :
    template ∈ (catalog.register template).templates := by
  have found : (catalog.register template).find? template.id = some template := by
    rw [find?_register, if_pos rfl]
  exact (find?_eq_some_iff.mp found).1

/-- A template all of whose texts are one. -/
def labelled (text : String) : Template :=
  { id := text, name := text, description := text, category := "", text := "" }

theorem settled_of_neverMisses (finds : NeverMisses query) : Settled query := by
  intro front back split loose
  obtain ⟨text, occurs, missed⟩ := exists_missed split loose
  have found := finds _ _ (mem_templates_register empty (labelled text))
    ⟨text, List.mem_cons_self, occurs⟩
  obtain ⟨-, other, listed, holds⟩ := mem_search_iff.mp found
  obtain rfl : other = text := by simpa [labelled] using listed
  exact missed holds

/-- What a search gives are templates of the catalog, in the order in which their ids were first
registered and each once. It never misses a template in which the query occurs just when no sigma of
the query is loose. -/
theorem search_registrations (query : String) :
    (∀ (start : Catalog) (templates : List Template),
      let catalog := templates.foldl register start
      let found := catalog.search query
      found.Sublist catalog.templates ∧ (found.map Template.id).Nodup ∧
        (found.map Template.id).Sublist
          ((start.templates ++ templates).map Template.id).eraseDups) ∧
      (NeverMisses query ↔ Settled query) := by
  refine ⟨?_, settled_of_neverMisses, neverMisses_of_settled⟩
  intro start templates catalog found
  have records := start.records_templates.foldl_register templates
  have sub : found.Sublist catalog.templates := List.filter_sublist
  have ids : (found.map Template.id).Sublist catalog.ids := sub.map Template.id
  exact ⟨sub, catalog.nodup_ids.sublist ids, records.ids ▸ ids⟩

/-- A template whose name begins with the word for a road. -/
def roads : Template :=
  { id := "roads", name := "ΟΔΟΣΤΡΩΜΑ", category := "system", text := "ls" }

/-- The sigma ends the word alone, and does not where the word goes on. -/
theorem lower_roads : lower "ΟΔΟΣ".toList = "οδος".toList ∧
    lower "ΟΔΟΣΤΡΩΜΑ".toList = "οδοστρωμα".toList := by
  have ends (rest : List Char) : endsWord ['Ο', 'Δ', 'Ο'].reverse rest = !startsCased rest := by
    rw [endsWord, show ['Ο', 'Δ', 'Ο'].reverse = 'Ο' :: ['Δ', 'Ο'] from rfl,
      startsCased_letter (.inl rfl), Bool.true_and]
  have stops : startsCased [] = false := rfl
  have goes : startsCased ['Τ', 'Ρ', 'Ω', 'Μ', 'Α'] = true := startsCased_letter (.inr rfl) _
  have alone : "ΟΔΟΣ".toList = ['Ο', 'Δ', 'Ο'] ++ 'Σ' :: [] := String.toList_ofList
  have within : "ΟΔΟΣΤΡΩΜΑ".toList = ['Ο', 'Δ', 'Ο'] ++ 'Σ' :: ['Τ', 'Ρ', 'Ω', 'Μ', 'Α'] :=
    String.toList_ofList
  constructor
  · rw [alone, lower_sigma (by decide) (by decide), ends, stops]
    decide +kernel
  · rw [within, lower_sigma (by decide) (by decide), ends, goes]
    decide +kernel

/-- A search for the word misses the template, because its sigma ends a word alone and not there. -/
theorem search_misses_roads :
    roads.Mentions "ΟΔΟΣ" ∧ roads ∈ (empty.register roads).templates ∧
      roads ∉ (empty.register roads).search "ΟΔΟΣ" := by
  refine ⟨⟨roads.name, by simp, [], "ΤΡΩΜΑ".toList, by decide +kernel⟩,
    mem_templates_register empty roads, fun found => ?_⟩
  obtain ⟨-, text, listed, holds⟩ := mem_search_iff.mp found
  rw [lower_roads.1] at holds
  simp only [List.mem_cons, List.not_mem_nil, or_false] at listed
  rcases listed with rfl | rfl | rfl
  · exact absurd holds (by decide +kernel)
  · rw [show roads.name = "ΟΔΟΣΤΡΩΜΑ" from rfl, lower_roads.2] at holds
    exact absurd holds (by decide +kernel)
  · exact absurd holds (by decide +kernel)

end Catalog

end CommandSynthesis
