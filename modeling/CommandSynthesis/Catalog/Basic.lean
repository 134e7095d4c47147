import CommandSynthesis.Template.Basic
import CommandSynthesis.Text.Case
import CommandSynthesis.Text.Part

set_option autoImplicit false

/-!
# Catalogs

An ordered collection of templates, each under an id of its own. A template that is registered under
an id that is taken replaces the one that has it, in its place. An index of the ids tells the place
of each template, so none is looked for.
-/

namespace CommandSynthesis

/-- Templates in the order in which their ids were first registered. -/
structure Catalog where
  entries : Array Template
  /-- The ids with the places of their templates. -/
  index : List (String × Nat)
  /-- A place is found under an id just when the template there has the id. -/
  lookup_index : ∀ id place,
    index.lookup id = some place ↔ entries[place]?.map Template.id = some id

namespace Catalog

def empty : Catalog := ⟨#[], [], by simp⟩

instance : Inhabited Catalog := ⟨empty⟩

def templates (catalog : Catalog) : List Template :=
  catalog.entries.toList

def size (catalog : Catalog) : Nat :=
  catalog.entries.size

def ids (catalog : Catalog) : List String :=
  catalog.templates.map Template.id

theorem getElem?_ids (catalog : Catalog) (place : Nat) :
    catalog.ids[place]? = catalog.entries[place]?.map Template.id := by
  simp [ids, templates]

theorem nodup_ids (catalog : Catalog) : catalog.ids.Nodup := by
  refine List.pairwise_iff_getElem.mpr fun first second firstIn secondIn before same => ?_
  -- The one id would be found at both places.
  have found := (catalog.lookup_index catalog.ids[first] first).mpr
    (by rw [← getElem?_ids, List.getElem?_eq_getElem firstIn])
  have again := (catalog.lookup_index catalog.ids[first] second).mpr
    (by rw [← getElem?_ids, List.getElem?_eq_getElem secondIn, same])
  rw [found, Option.some.injEq] at again
  omega

theorem lt_size_of_lookup (catalog : Catalog) {id : String} {place : Nat}
    (found : catalog.index.lookup id = some place) : place < catalog.entries.size := by
  obtain ⟨template, there, -⟩ :=
    Option.map_eq_some_iff.mp ((catalog.lookup_index id place).mp found)
  exact (Array.getElem?_eq_some_iff.mp there).1

/-- The place of an id, if it is registered. -/
def place? (catalog : Catalog) (id : String) : Option (Fin catalog.entries.size) :=
  match found : catalog.index.lookup id with
  | some place => some ⟨place, catalog.lt_size_of_lookup found⟩
  | none => none

theorem place?_eq_some_iff {catalog : Catalog} {id : String} {place : Fin catalog.entries.size} :
    catalog.place? id = some place ↔ catalog.entries[place].id = id := by
  have indexed := catalog.lookup_index id place
  rw [Array.getElem?_eq_getElem place.isLt, Option.map_some, Option.some.injEq] at indexed
  refine Iff.trans ?_ indexed
  unfold place?
  split
  · next found => simp [found, Fin.ext_iff]
  · next found => simp [found]

theorem place?_eq_none_iff {catalog : Catalog} {id : String} :
    catalog.place? id = none ↔ id ∉ catalog.ids := by
  constructor
  · intro missing registered
    obtain ⟨place, there⟩ := List.mem_iff_getElem?.mp registered
    rw [getElem?_ids, Option.map_eq_some_iff] at there
    obtain ⟨template, there, named⟩ := there
    obtain ⟨inside, rfl⟩ := Array.getElem?_eq_some_iff.mp there
    have found : catalog.place? id = some ⟨place, inside⟩ := place?_eq_some_iff.mpr named
    rw [missing] at found
    cases found
  · intro missing
    refine Option.eq_none_iff_forall_ne_some.mpr fun place found => missing ?_
    rw [← place?_eq_some_iff.mp found]
    exact List.mem_map_of_mem (Array.getElem_mem_toList place.isLt)

/-- The template with an id. -/
def find? (catalog : Catalog) (id : String) : Option Template :=
  (catalog.place? id).map fun place => catalog.entries[place]

theorem map_id_getElem?_set (catalog : Catalog) {place : Fin catalog.entries.size}
    {template : Template} (same : catalog.entries[place].id = template.id) (other : Nat) :
    (catalog.entries.set place template)[other]?.map Template.id =
      catalog.entries[other]?.map Template.id := by
  rw [Array.getElem?_set]
  by_cases here : (place : Nat) = other
  · subst here
    rw [if_pos rfl, Array.getElem?_eq_getElem place.isLt, Option.map_some, Option.map_some, ← same]
    rfl
  · rw [if_neg here]

theorem lookup_index_push (catalog : Catalog) {template : Template}
    (fresh : catalog.place? template.id = none) (id : String) (place : Nat) :
    ((template.id, catalog.entries.size) :: catalog.index).lookup id = some place ↔
      (catalog.entries.push template)[place]?.map Template.id = some id := by
  have before := catalog.lookup_index id place
  rw [Array.getElem?_push, List.lookup_cons]
  by_cases new : id = template.id
  · -- No template that was there before has the id.
    have others : catalog.entries[place]?.map Template.id ≠ some id := by
      rw [← getElem?_ids]
      intro there
      exact place?_eq_none_iff.mp fresh (new ▸ List.mem_of_getElem? there)
    subst new
    by_cases last : place = catalog.entries.size
    · simp [last]
    · rw [if_neg last]
      simp [Ne.symm last, others]
  · rw [beq_false_of_ne new]
    by_cases last : place = catalog.entries.size
    · subst last
      simpa [Ne.symm new] using before
    · rw [if_neg last]
      exact before

/-- Puts a template in the place of the one with its id. -/
def replace (catalog : Catalog) (place : Fin catalog.entries.size) (template : Template)
    (same : catalog.entries[place].id = template.id) : Catalog where
  entries := catalog.entries.set place template
  index := catalog.index
  lookup_index id other := by rw [catalog.lookup_index, catalog.map_id_getElem?_set same]

/-- Adds a template whose id is not registered. -/
def append (catalog : Catalog) (template : Template)
    (fresh : catalog.place? template.id = none) : Catalog where
  entries := catalog.entries.push template
  index := (template.id, catalog.entries.size) :: catalog.index
  lookup_index := catalog.lookup_index_push fresh

/-- Adds a template, or replaces the one with its id. -/
def register (catalog : Catalog) (template : Template) : Catalog :=
  match found : catalog.place? template.id with
  | some place => catalog.replace place template (place?_eq_some_iff.mp found)
  | none => catalog.append template found

theorem register_of_place? {catalog : Catalog} {template : Template}
    {place : Fin catalog.entries.size} (found : catalog.place? template.id = some place) :
    catalog.register template = catalog.replace place template (place?_eq_some_iff.mp found) := by
  unfold register
  split
  · next other same =>
    obtain rfl := Option.some.inj (same.symm.trans found)
    rfl
  · next missing =>
    rw [found] at missing
    cases missing

theorem register_of_fresh {catalog : Catalog} {template : Template}
    (fresh : catalog.place? template.id = none) :
    catalog.register template = catalog.append template fresh := by
  unfold register
  split
  · next found =>
    rw [fresh] at found
    cases found
  · rfl

def ofList (templates : List Template) : Catalog :=
  templates.foldl register empty

/-- The categories of templates, each where it comes first. -/
def categories (catalog : Catalog) : List String :=
  (catalog.templates.map Template.category).eraseDups

def byCategory (catalog : Catalog) (category : String) : List Template :=
  catalog.templates.filter (·.category == category)

/-- Whether a query occurs in a text when case is ignored. -/
def occursIn (query text : String) : Bool :=
  Text.occursIn (Text.lower query.toList) (Text.lower text.toList)

/-- The templates whose id, name or description holds a query; case is ignored. -/
def search (catalog : Catalog) (query : String) : List Template :=
  catalog.templates.filter fun template =>
    occursIn query template.id || occursIn query template.name ||
      occursIn query template.description

end Catalog

end CommandSynthesis
