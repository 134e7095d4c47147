import CommandSynthesis.Proofs.Json.Members

set_option autoImplicit false

/-!
# Values that hold others

One value holds another when it is the same but for the order of members and for members that only
the first has. A value with distinct keys is held by itself and by whatever comes of laying its
sorted form over another value.
-/

namespace CommandSynthesis.Json

mutual

/-- The whole has every member of the part, and its other values are those of the part. -/
def Holds (whole : Json) : Json → Prop
  | .object members => ∃ others, whole = .object others ∧ (keys others).Nodup ∧
      HoldsMembers others members
  | .array items => ∃ others, whole = .array others ∧ HoldsItems others items
  | part => whole = part

def HoldsItems (others : List Json) : List Json → Prop
  | [] => others = []
  | item :: rest => ∃ first tail, others = first :: tail ∧ Holds first item ∧ HoldsItems tail rest

def HoldsMembers (others : List (String × Json)) : List (String × Json) → Prop
  | [] => True
  | (key, value) :: rest => (∃ held, lookup? key others = some held ∧ Holds held value) ∧
      HoldsMembers others rest

end

mutual

/-- No object in the value has two members with one key. -/
def IsDistinct : Json → Prop
  | .object members => (keys members).Nodup ∧ AreDistinctMembers members
  | .array items => AreDistinct items
  | .null | .bool _ | .number _ | .string _ => True

def AreDistinct : List Json → Prop
  | [] => True
  | item :: rest => IsDistinct item ∧ AreDistinct rest

def AreDistinctMembers : List (String × Json) → Prop
  | [] => True
  | (_, value) :: rest => IsDistinct value ∧ AreDistinctMembers rest

end

/-- Members of objects are sorted, as far as objects stand directly in objects. -/
inductive IsOrdered : Json → Prop where
  | object {members : List (String × Json)} : Ordered members →
      (∀ key value, lookup? key members = some value → IsOrdered value) →
      IsOrdered (.object members)
  | other {value : Json} : value.isObject = false → IsOrdered value

mutual

theorem isOrdered_sorted : ∀ value : Json, IsOrdered value.sorted
  | .null | .bool _ | .number _ | .string _ => .other rfl
  | .array _ => by rw [sorted]; exact .other rfl
  | .object members => by
    rw [sorted]
    exact .object (ordered_nil.sortedMembers members) (isOrdered_sortedMembers members nofun)

theorem isOrdered_sortedMembers : ∀ (members : List (String × Json))
    {done : List (String × Json)}, (∀ key value, lookup? key done = some value → IsOrdered value) →
      ∀ key value, lookup? key (sortedMembers done members) = some value → IsOrdered value
  | [], _, ordered => ordered
  | (name, first) :: rest, done, ordered => by
    rw [sortedMembers]
    apply isOrdered_sortedMembers rest
    intro key value found
    rw [lookup?_insert] at found
    split at found
    · cases found
      exact isOrdered_sorted first
    · exact ordered key value found

end

theorem IsOrdered.lookupOrNull {members : List (String × Json)} (ordered : IsOrdered (.object members))
    (key : String) : IsOrdered (lookupOrNull key members) := by
  cases ordered with
  | other impossible => cases impossible
  | object _ inner =>
    rw [Json.lookupOrNull]
    cases found : lookup? key members with
    | none => exact .other rfl
    | some value => exact inner key value found

theorem IsOrdered.members {members : List (String × Json)} (ordered : IsOrdered (.object members)) :
    Ordered members := by
  cases ordered with
  | other impossible => cases impossible
  | object ordered _ => exact ordered

mutual

theorem holds_self : ∀ {value : Json}, IsDistinct value → Holds value value
  | .null, _ => rfl
  | .bool _, _ => rfl
  | .number _, _ => rfl
  | .string _, _ => rfl
  | .array _, distinct => ⟨_, rfl, holdsItems_self distinct⟩
  | .object _, ⟨nodup, inner⟩ =>
    ⟨_, rfl, nodup, holdsMembers_self inner fun _ _ member => lookup?_of_mem nodup member⟩

theorem holdsItems_self : ∀ {items : List Json}, AreDistinct items → HoldsItems items items
  | [], _ => rfl
  | _ :: _, ⟨first, rest⟩ => ⟨_, _, rfl, holds_self first, holdsItems_self rest⟩

theorem holdsMembers_self {others : List (String × Json)} : ∀ {members : List (String × Json)},
    AreDistinctMembers members →
      (∀ key value, (key, value) ∈ members → lookup? key others = some value) →
        HoldsMembers others members
  | [], _, _ => trivial
  | (key, value) :: _, ⟨first, rest⟩, found =>
    ⟨⟨value, found key value List.mem_cons_self, holds_self first⟩,
      holdsMembers_self rest fun key value member =>
        found key value (List.mem_cons_of_mem _ member)⟩

end

theorem overlay_null (patch : Json) : overlay .null patch = patch := by
  cases patch <;> rfl

theorem overlay_object {base : Json} (other : base.isObject = false)
    (patch : List (String × Json)) : overlay base (.object patch) = .object patch := by
  cases base with
  | object members => cases other
  | _ => rfl

theorem overlay_of_isObject {base value : Json}
    (apart : base.isObject = false ∨ value.isObject = false) : overlay base value = value := by
  cases value with
  | object members => exact overlay_object (apart.resolve_right nofun) members
  | _ => rfl

mutual

/-- A value with distinct keys is held by its sorted form laid over any value. -/
theorem holds_overlay : ∀ {value : Json}, IsDistinct value → ∀ {base : Json}, IsOrdered base →
    Holds (overlay base value.sorted) value
  | .null, _, _, _ => rfl
  | .bool _, _, _, _ => rfl
  | .number _, _, _, _ => rfl
  | .string _, _, _, _ => rfl
  | .array items, distinct, _, _ => by
    rw [sorted, overlay]
    · exact ⟨_, rfl, holdsItems_sorted distinct⟩
    · exact nofun
  | .object members, ⟨nodup, inner⟩, base, ordered => by
    have patch : Ordered (sortedMembers [] members) := ordered_nil.sortedMembers members
    have found {key : String} {value : Json} (member : (key, value) ∈ members) :
        lookup? key (sortedMembers [] members) = some value.sorted := by
      rw [lookup?_sortedMembers nodup, lookup?_of_mem nodup member]
      rfl
    rw [sorted]
    rcases base.isObject_eq_false_or_exists with flat | ⟨bottom, rfl⟩
    · refine ⟨_, overlay_object flat _, patch.nodup, holdsMembers_overlay inner ?_⟩
      intro key value member
      exact ⟨.null, .other rfl, by rw [found member, overlay_null]⟩
    · refine ⟨_, rfl, (ordered.members.overlayMembers _).nodup, holdsMembers_overlay inner ?_⟩
      intro key value member
      refine ⟨lookupOrNull key bottom, ordered.lookupOrNull key, ?_⟩
      rw [lookup?_overlayMembers patch.nodup, found member]

theorem holdsItems_sorted : ∀ {items : List Json}, AreDistinct items →
    HoldsItems (sortedItems items) items
  | [], _ => rfl
  | item :: _, ⟨first, rest⟩ => by
    have held : Holds (overlay .null item.sorted) item := holds_overlay first (.other rfl)
    rw [overlay_null] at held
    exact ⟨_, _, rfl, held, holdsItems_sorted rest⟩

theorem holdsMembers_overlay {others : List (String × Json)} :
    ∀ {members : List (String × Json)}, AreDistinctMembers members →
      (∀ key value, (key, value) ∈ members →
        ∃ base, IsOrdered base ∧ lookup? key others = some (overlay base value.sorted)) →
          HoldsMembers others members
  | [], _, _ => trivial
  | (key, value) :: _, ⟨first, rest⟩, found => by
    obtain ⟨base, ordered, held⟩ := found key value List.mem_cons_self
    exact ⟨⟨_, held, holds_overlay first ordered⟩, holdsMembers_overlay rest fun key value member =>
      found key value (List.mem_cons_of_mem _ member)⟩

end

end CommandSynthesis.Json
