import CommandSynthesis.Json.Overlay

set_option autoImplicit false

/-!
# Members by their keys

What a key stands for among members that are sorted or laid over others. Members stay in the order
of their keys, each key once, when others are put among them or laid over them.
-/

namespace CommandSynthesis.Json

def keys (members : List (String × Json)) : List String :=
  members.map Prod.fst

/-- The keys are in order and each stands once. -/
def Ordered (members : List (String × Json)) : Prop :=
  (keys members).Pairwise (· < ·)

theorem Ordered.nodup {members : List (String × Json)} (ordered : Ordered members) :
    (keys members).Nodup := by
  refine List.Pairwise.imp ?_ ordered
  rintro key _ less rfl
  exact String.lt_irrefl key less

theorem ordered_nil : Ordered [] := List.Pairwise.nil

theorem lookup?_eq_none_iff {key : String} {members : List (String × Json)} :
    lookup? key members = none ↔ key ∉ keys members := by
  induction members with
  | nil => simp [lookup?, keys]
  | cons member rest ih =>
    obtain ⟨name, value⟩ := member
    by_cases same : name = key
    · simp [lookup?, keys, same]
    · have other : key ≠ name := fun equal => same equal.symm
      simp only [keys] at ih
      simp [lookup?, keys, same, other, ih]

theorem lookup?_of_mem {key : String} {value : Json} {members : List (String × Json)}
    (distinct : (keys members).Nodup) (member : (key, value) ∈ members) :
    lookup? key members = some value := by
  induction members with
  | nil => cases member
  | cons first rest ih =>
    obtain ⟨name, old⟩ := first
    obtain ⟨fresh, distinct⟩ := List.nodup_cons.1 distinct
    rcases List.mem_cons.1 member with same | member
    · cases same
      rw [lookup?, if_pos rfl]
    · have other : name ≠ key := by
        rintro rfl
        exact fresh (List.mem_map.2 ⟨_, member, rfl⟩)
      rw [lookup?, if_neg other]
      exact ih distinct member

theorem mem_of_lookup? {key : String} {value : Json} {members : List (String × Json)}
    (found : lookup? key members = some value) : (key, value) ∈ members := by
  induction members with
  | nil => cases found
  | cons first rest ih =>
    obtain ⟨name, old⟩ := first
    rw [lookup?] at found
    split at found
    · next same =>
      cases found
      subst same
      exact List.mem_cons_self
    · exact List.mem_cons_of_mem _ (ih found)

/-- Members in order are the same when their keys stand for the same. -/
theorem Ordered.ext {members others : List (String × Json)} (ordered : Ordered members)
    (ordered' : Ordered others) (same : ∀ key, lookup? key members = lookup? key others) :
    members = others := by
  have perm : members.Perm others := by
    have apart (first second : String × Json) (different : first.1 ≠ second.1) : first ≠ second :=
      fun equal => different (congrArg Prod.fst equal)
    refine (List.perm_ext_iff_of_nodup (List.Pairwise.of_map _ apart ordered.nodup)
      (List.Pairwise.of_map _ apart ordered'.nodup)).2 ?_
    rintro ⟨key, value⟩
    constructor
    · intro member
      exact mem_of_lookup? (same key ▸ lookup?_of_mem ordered.nodup member)
    · intro member
      exact mem_of_lookup? (same key ▸ lookup?_of_mem ordered'.nodup member)
  refine perm.eq_of_pairwise ?_ (List.pairwise_map.1 ordered) (List.pairwise_map.1 ordered')
  intro first second _ _ less more
  exact absurd more (String.lt_asymm less)

theorem lookup?_insert (key other : String) (value : Json) (members : List (String × Json)) :
    lookup? other (insert key value members) =
      if key = other then some value else lookup? other members := by
  induction members with
  | nil => rfl
  | cons member rest ih =>
    obtain ⟨name, old⟩ := member
    rw [insert]
    split
    · rfl
    split
    · next same =>
      subst same
      by_cases equal : key = other <;> simp [lookup?, equal]
    · next different =>
      rw [lookup?, ih, lookup?]
      by_cases equal : key = other
      · subst equal
        simp [Ne.symm different]
      · simp [equal]

theorem mem_keys_insert {key other : String} {value : Json} {members : List (String × Json)} :
    other ∈ keys (insert key value members) ↔ other = key ∨ other ∈ keys members := by
  rw [← Decidable.not_iff_not, ← lookup?_eq_none_iff, lookup?_insert, not_or, ← lookup?_eq_none_iff]
  by_cases same : key = other
  · simp [same]
  · simp [same, Ne.symm same]

theorem Ordered.insert {members : List (String × Json)} (ordered : Ordered members) (key : String)
    (value : Json) : Ordered (insert key value members) := by
  induction members with
  | nil => exact List.pairwise_singleton _ _
  | cons member rest ih =>
    obtain ⟨name, old⟩ := member
    obtain ⟨least, ordered'⟩ := List.pairwise_cons.1 ordered
    rw [Json.insert]
    split
    · next less =>
      refine List.pairwise_cons.2 ⟨fun other present => ?_, ordered⟩
      rcases List.mem_cons.1 present with rfl | present
      · exact less
      · exact String.lt_trans less (least other present)
    split
    · next same =>
      subst same
      exact ordered
    · next notLess different =>
      refine List.pairwise_cons.2 ⟨fun other present => ?_, ih ordered'⟩
      rcases mem_keys_insert.1 present with rfl | present
      · exact Classical.byContradiction fun notMore =>
          different (String.le_antisymm (String.not_lt.1 notMore) (String.not_lt.1 notLess))
      · exact least other present

theorem Ordered.sortedMembers {done : List (String × Json)} (ordered : Ordered done)
    (members : List (String × Json)) : Ordered (sortedMembers done members) := by
  induction members generalizing done with
  | nil => exact ordered
  | cons member rest ih => exact ih (ordered.insert _ _)

theorem isObject_eq_false_or_exists (value : Json) :
    value.isObject = false ∨ ∃ members, value = .object members := by
  cases value with
  | object members => exact .inr ⟨members, rfl⟩
  | _ => exact .inl rfl

theorem isObject_sorted (value : Json) : value.sorted.isObject = value.isObject := by
  cases value <;> simp [sorted, isObject]

/-- A key stands for the sorted form of what it stood for. -/
theorem lookup?_sortedMembers {key : String} {members : List (String × Json)}
    (distinct : (keys members).Nodup) (done : List (String × Json)) :
    lookup? key (sortedMembers done members) =
      ((lookup? key members).map sorted).or (lookup? key done) := by
  induction members generalizing done with
  | nil => rfl
  | cons member rest ih =>
    obtain ⟨name, value⟩ := member
    obtain ⟨fresh, distinct⟩ := List.nodup_cons.1 distinct
    rw [sortedMembers, ih distinct, lookup?_insert, lookup?]
    by_cases same : name = key
    · subst same
      simp [lookup?_eq_none_iff.2 fresh]
    · simp [same]

theorem Ordered.overlayMembers {members : List (String × Json)} (ordered : Ordered members)
    (patch : List (String × Json)) : Ordered (overlayMembers members patch) := by
  induction patch generalizing members with
  | nil => exact ordered
  | cons member rest ih => exact ih (ordered.insert _ _)

/-- A key of the patch stands for its value laid over what the key stood for; other keys stand for
what they did. -/
theorem lookup?_overlayMembers {key : String} {patch : List (String × Json)}
    (distinct : (keys patch).Nodup) (members : List (String × Json)) :
    lookup? key (overlayMembers members patch) =
      match lookup? key patch with
      | some value => some (overlay (lookupOrNull key members) value)
      | none => lookup? key members := by
  induction patch generalizing members with
  | nil => rfl
  | cons member rest ih =>
    obtain ⟨name, value⟩ := member
    obtain ⟨fresh, distinct⟩ := List.nodup_cons.1 distinct
    rw [overlayMembers, ih distinct, lookup?, lookupOrNull, lookup?_insert]
    by_cases same : name = key
    · subst same
      simp [lookup?_eq_none_iff.2 fresh]
    · simp [same, lookupOrNull]

end CommandSynthesis.Json
