import CommandSynthesis.Catalog.Basic
import CommandSynthesis.Lint.Basic
import CommandSynthesis.Proofs.Synthesis.Naming

set_option autoImplicit false

/-!
# Registered templates

What a catalog holds after any number of registrations: each id once, in the order in which the ids
were first registered, and under each id the template that was registered last. A registration says
what becomes of the ids and of each look-up, and the rest follows from these two.
-/

namespace CommandSynthesis

namespace Catalog

variable {catalog : Catalog} {template : Template} {id : String}

/-! ## Look-ups -/

theorem find?_eq_bind (catalog : Catalog) (id : String) :
    catalog.find? id = (catalog.index.lookup id).bind (catalog.entries[·]?) := by
  unfold find? place?
  split
  · next place found =>
    have inside := catalog.lt_size_of_lookup found
    simp [found, Array.getElem?_eq_getElem inside]
  · next missing => simp [missing]

theorem find?_eq_some_iff :
    catalog.find? id = some template ↔ template ∈ catalog.templates ∧ template.id = id := by
  rw [find?, Option.map_eq_some_iff, templates, Array.mem_toList_iff, Array.mem_iff_getElem]
  constructor
  · intro looked
    obtain ⟨place, found, there⟩ := looked
    exact ⟨⟨place, place.isLt, there⟩, there ▸ place?_eq_some_iff.mp found⟩
  · intro registered
    obtain ⟨⟨place, inside, there⟩, named⟩ := registered
    refine ⟨⟨place, inside⟩, place?_eq_some_iff.mpr ?_, there⟩
    rw [← named, ← there]
    rfl

theorem find?_eq_none_iff : catalog.find? id = none ↔ id ∉ catalog.ids := by
  rw [find?, Option.map_eq_none_iff, place?_eq_none_iff]

/-- A look-up gives the first template with the id. -/
theorem find?_templates (catalog : Catalog) (id : String) :
    catalog.templates.find? (·.id = id) = catalog.find? id := by
  cases found : catalog.templates.find? (·.id = id) with
  | some template =>
    have named : template.id = id := by simpa using List.find?_some found
    exact (find?_eq_some_iff.mpr ⟨List.mem_of_find?_eq_some found, named⟩).symm
  | none =>
    refine (find?_eq_none_iff.mpr fun registered => ?_).symm
    obtain ⟨template, member, named⟩ := List.mem_map.mp registered
    exact absurd named (by simpa using List.find?_eq_none.mp found template member)

/-- The templates are those that are found under the ids. -/
theorem templates_eq_filterMap (catalog : Catalog) :
    catalog.templates = catalog.ids.filterMap catalog.find? := by
  have found : ∀ template ∈ catalog.templates, catalog.find? template.id = some template :=
    fun template member => find?_eq_some_iff.mpr ⟨member, rfl⟩
  rw [ids, List.filterMap_map]
  exact ((List.filterMap_congr found).trans List.filterMap_some).symm

/-! ## One registration -/

theorem ids_register (catalog : Catalog) (template : Template) :
    (catalog.register template).ids =
      if template.id ∈ catalog.ids then catalog.ids else catalog.ids ++ [template.id] := by
  cases found : catalog.place? template.id with
  | some place =>
    have registered : template.id ∈ catalog.ids := by
      refine Decidable.byContradiction fun missing => ?_
      rw [place?_eq_none_iff.mpr missing] at found
      cases found
    rw [if_pos registered, register_of_place? found]
    refine List.ext_getElem? fun other => ?_
    rw [getElem?_ids, getElem?_ids]
    exact catalog.map_id_getElem?_set (place?_eq_some_iff.mp found) other
  | none =>
    rw [if_neg (place?_eq_none_iff.mp found), register_of_fresh found]
    simp [ids, templates, append]

theorem find?_register (catalog : Catalog) (template : Template) (id : String) :
    (catalog.register template).find? id =
      if id = template.id then some template else catalog.find? id := by
  rw [find?_eq_bind, find?_eq_bind]
  cases found : catalog.place? template.id with
  | some place =>
    have there : catalog.entries[place].id = template.id := place?_eq_some_iff.mp found
    have indexed : catalog.index.lookup template.id = some (place : Nat) := by
      rw [catalog.lookup_index, Array.getElem?_eq_getElem place.isLt, Option.map_some]
      exact congrArg some there
    rw [register_of_place? found]
    by_cases same : id = template.id
    · simp [replace, same, indexed]
    · rw [if_neg same]
      refine Option.bind_congr fun other looked => ?_
      -- The place of another id is another one.
      have apart : (place : Nat) ≠ other := by
        rintro rfl
        have named := (catalog.lookup_index _ _).mp looked
        rw [(catalog.lookup_index _ _).mp indexed, Option.some.injEq] at named
        exact same named.symm
      simp [replace, apart]
  | none =>
    rw [register_of_fresh found, append, List.lookup_cons]
    by_cases same : id = template.id
    · simp [same]
    · rw [beq_false_of_ne same, if_neg same]
      refine Option.bind_congr fun place looked => ?_
      have inside := catalog.lt_size_of_lookup looked
      rw [Array.getElem?_push, if_neg (Nat.ne_of_lt inside)]

/-! ## All registrations -/

/-- The template that was registered last under an id. -/
def lastRegistered? (registered : List Template) (id : String) : Option Template :=
  (registered.filter (·.id = id)).getLast?

theorem lastRegistered?_append (registered : List Template) (template : Template) (id : String) :
    lastRegistered? (registered ++ [template]) id =
      if id = template.id then some template else lastRegistered? registered id := by
  unfold lastRegistered?
  by_cases same : id = template.id
  · simp [same]
  · simp [same, Ne.symm same]

theorem eraseDups_concat (names : List String) (name : String) :
    (names ++ [name]).eraseDups =
      if name ∈ names then names.eraseDups else names.eraseDups ++ [name] := by
  rw [List.eraseDups_append]
  by_cases taken : name ∈ names <;> simp [List.removeAll, taken, List.eraseDups_cons]

/-- The catalog has what was registered: its ids in the order in which they came first, each with
the template that came last. -/
structure Records (catalog : Catalog) (registered : List Template) : Prop where
  ids : catalog.ids = (registered.map Template.id).eraseDups
  find? : ∀ id, catalog.find? id = lastRegistered? registered id

theorem records_templates (catalog : Catalog) : catalog.Records catalog.templates where
  ids := (eraseDups_of_nodup catalog.nodup_ids).symm
  find? id := by
    have listed : ∀ template ∈ catalog.templates.filter (·.id = id),
        catalog.find? id = some template := by
      intro template member
      rw [List.mem_filter, decide_eq_true_eq] at member
      exact find?_eq_some_iff.mpr member
    rw [lastRegistered?]
    cases last : (catalog.templates.filter (·.id = id)).getLast? with
    | some template => exact listed template (List.mem_of_getLast? last)
    | none =>
      refine find?_eq_none_iff.mpr fun registered => ?_
      obtain ⟨template, member, named⟩ := List.mem_map.mp registered
      have absent := List.filter_eq_nil_iff.mp (List.getLast?_eq_none_iff.mp last)
      exact absent template member (by simp [named])

theorem Records.register {registered : List Template} (records : catalog.Records registered)
    (template : Template) : (catalog.register template).Records (registered ++ [template]) where
  ids := by
    rw [ids_register, records.ids, List.map_append, List.map_singleton, eraseDups_concat]
    simp only [List.mem_eraseDups]
  find? id := by rw [find?_register, lastRegistered?_append, records.find?]

theorem Records.foldl_register {registered : List Template} (records : catalog.Records registered)
    (templates : List Template) :
    (templates.foldl Catalog.register catalog).Records (registered ++ templates) := by
  induction templates generalizing catalog registered with
  | nil => simpa using records
  | cons template templates ih => simpa using ih (records.register template)

end Catalog

/-! ## Lint of what is registered -/

/-- Lint reports templates with different ids as it does one by one. -/
theorem lintFrom_of_distinct {seen : List String} {templates : List Template}
    (distinct : (templates.map Template.id).Nodup)
    (fresh : ∀ id ∈ templates.map Template.id, id ∉ seen) :
    lintFrom seen templates = templates.flatMap Template.lint := by
  induction templates generalizing seen with
  | nil => rfl
  | cons template templates ih =>
    rw [List.map_cons, List.nodup_cons] at distinct
    obtain ⟨apart, distinct⟩ := distinct
    rw [List.map_cons, List.forall_mem_cons] at fresh
    obtain ⟨unseen, fresh⟩ := fresh
    have later : ∀ id ∈ templates.map Template.id, id ∉ template.id :: seen := by
      intro id member
      rw [List.mem_cons, not_or]
      exact ⟨fun same => apart (same ▸ member), fresh id member⟩
    simp [lintFrom, unseen, ih distinct later]

/-- The issue is that the id of a template has been seen before. -/
def LintIssue.RepeatsId (issue : LintIssue) : Prop :=
  ∃ template : Template,
    issue = template.lintError ("duplicate template id '" ++ template.id ++ "'")

/-- Lint of one template does not look at other ids. -/
theorem Template.not_repeatsId_of_mem_lint {template : Template} {issue : LintIssue}
    (reported : issue ∈ template.lint) : ¬ issue.RepeatsId := by
  intro repeated
  obtain ⟨other, same⟩ := repeated
  simp only [lint, List.mem_append, List.mem_flatMap] at reported
  -- What is no warning begins with other words.
  rcases reported with ((repeated | unmatched) | ⟨input, -, unfit⟩) | ⟨cond, -, unfit⟩
  · obtain ⟨name, -, rfl⟩ := List.mem_map.mp repeated
    simp [lintError, ← String.toList_inj] at same
  · obtain ⟨name, -, rfl⟩ := List.mem_map.mp unmatched
    simp [lintError, ← String.toList_inj] at same
  · obtain warns | ⟨-, -, rfl⟩ := warning_or_error_of_mem_inputIssues unfit
    · simp [same, lintError] at warns
    · simp [lintError, ← String.toList_inj] at same
  · have warns := warning_of_mem_branchIssues unfit
    simp [same, lintError] at warns

theorem lintAll_templates (catalog : Catalog) :
    lintAll catalog.templates = catalog.templates.flatMap Template.lint :=
  lintFrom_of_distinct catalog.nodup_ids fun _ _ => List.not_mem_nil

namespace Catalog

/-- A catalog is a map from ids to templates, in the order of insertion. After any registrations, a
look-up gives the template that was registered last under the id, and so does the list of templates,
which has each id once, in the order in which the ids were first registered. The index leads to the
templates with its ids, and to nothing else. Lint finds no id twice. -/
theorem records_registrations (start : Catalog) (templates : List Template) :
    let catalog := templates.foldl register start
    let registered := start.templates ++ templates
    (∀ id, catalog.find? id = lastRegistered? registered id) ∧
      catalog.ids = (registered.map Template.id).eraseDups ∧
      catalog.templates = catalog.ids.filterMap (lastRegistered? registered) ∧
      (∀ id, catalog.find? id = catalog.templates.find? (·.id = id)) ∧
      (∀ id place, catalog.index.lookup id = some place ↔
        ∃ inside : place < catalog.entries.size, catalog.entries[place].id = id) ∧
      ¬ ∃ issue ∈ lintAll catalog.templates, issue.RepeatsId := by
  intro catalog registered
  have records : catalog.Records registered := start.records_templates.foldl_register templates
  refine ⟨records.find?, records.ids, ?_, fun id => (catalog.find?_templates id).symm, ?_, ?_⟩
  · rw [← funext records.find?]
    exact catalog.templates_eq_filterMap
  · intro id place
    rw [catalog.lookup_index, Option.map_eq_some_iff]
    simp only [Array.getElem?_eq_some_iff]
    exact ⟨fun ⟨_, ⟨inside, there⟩, named⟩ => ⟨inside, there ▸ named⟩,
      fun ⟨inside, named⟩ => ⟨_, ⟨inside, rfl⟩, named⟩⟩
  · intro repeated
    obtain ⟨issue, reported, repeats⟩ := repeated
    rw [lintAll_templates] at reported
    obtain ⟨template, -, reported⟩ := List.mem_flatMap.mp reported
    exact Template.not_repeatsId_of_mem_lint reported repeats

end Catalog

end CommandSynthesis
