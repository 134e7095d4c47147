import CommandSynthesis.Proofs.Json.Holding
import CommandSynthesis.Proofs.Json.RoundTrip

set_option autoImplicit false

/-!
# Reading records

A record is read from an object with distinct keys when every field that is there passes its check
and no other is required; each field then has the value of its key. On this rest the decoders of
records: a thing is made of every value that holds what is written for it.
-/

namespace CommandSynthesis

open Json Outline

/-- This many brackets may still stand inside one another. -/
def Origin.Allows : Origin → Nat → Prop
  | .text allowed, depth => depth ≤ allowed
  | _, _ => True

theorem Origin.Allows.enter {origin : Origin} {depth : Nat} (allows : origin.Allows (depth + 1)) :
    ∃ inside, origin.enter = .ok inside ∧ inside.Allows depth := by
  cases origin with
  | value => exact ⟨.value, rfl, trivial⟩
  | aside => exact ⟨.aside, rfl, trivial⟩
  | text allowed =>
    cases allowed with
    | zero => cases allows
    | succ allowed => exact ⟨.text allowed, rfl, Nat.le_of_succ_le_succ allows⟩

namespace Outline

mutual

theorem skip_ofJson : ∀ value : Json, skip (ofJson value) = .ok ()
  | .null => rfl
  | .bool _ => rfl
  | .number _ => rfl
  | .string _ => rfl
  | .array items => by rw [ofJson, skip, skipItems_ofItems items]; rfl
  | .object members => by rw [ofJson, skip, skipMembers_ofMembers members]; rfl

theorem skipItems_ofItems : ∀ items : List Json, skipItems (ofItems items) = .ok ()
  | [] => rfl
  | item :: rest => by rw [ofItems, skipItems, skip_ofJson item, skipItems_ofItems rest]; rfl

theorem skipMembers_ofMembers :
    ∀ members : List (String × Json), skipMembers (ofMembers members) = .ok ()
  | [] => rfl
  | (key, value) :: rest => by
    rw [ofMembers, skipMembers, skip_ofJson value, skipMembers_ofMembers rest]
    rfl

end

end Outline

/-- What the members have under the name of the field passes its check. -/
def Field.Fits (origin : Origin) (members : List (String × Json)) (field : Field) : Prop :=
  ∀ value, lookup? field.name members = some value → field.check origin (ofJson value) = .ok ()

theorem Field.Fits.tail {origin : Origin} {key : String} {value : Json}
    {rest : List (String × Json)} {field : Field} (absent : key ∉ keys rest)
    (fits : field.Fits origin ((key, value) :: rest)) : field.Fits origin rest := by
  intro inner found
  have other : key ≠ field.name := by
    rintro rfl
    rw [lookup?_eq_none_iff.2 absent] at found
    cases found
  exact fits inner ((if_neg other).trans found)

/-- No member is missing from a record without required fields. -/
theorem Field.complete_of_optional {fields : List Field}
    (optional : ∀ field ∈ fields, field.required = false) (members : List (String × Json)) :
    ∀ field ∈ fields, field.required = true → field.name ∈ keys members := by
  intro field known required
  rw [optional field known] at required
  cases required

namespace Record

theorem lookup_cons_eq_none {key : String} {value : Json} {rest : List (String × Json)}
    {done : List (String × Outline)} (absent : key ∉ keys rest)
    (fresh : ∀ other ∈ keys ((key, value) :: rest), done.lookup other = none) (read : Outline) :
    ∀ other ∈ keys rest, ((key, read) :: done).lookup other = none := by
  intro other present
  have different : other ≠ key := fun same => absent (same ▸ present)
  rw [List.lookup_cons, beq_false_of_ne different]
  exact fresh other (List.mem_cons_of_mem key present)

/-- Members with distinct keys are gathered when the fields among them pass their checks. -/
theorem ofMembers_ofJson {fields : List Field} {origin : Origin} {members : List (String × Json)}
    (distinct : (keys members).Nodup) (fits : ∀ field ∈ fields, field.Fits origin members)
    (done : List (String × Outline)) (fresh : ∀ key ∈ keys members, done.lookup key = none) :
    ∃ values, ofMembers fields origin done (Outline.ofMembers members) = .ok values ∧
      ∀ field ∈ fields, values.lookup field.name =
        ((lookup? field.name members).map ofJson).or (done.lookup field.name) := by
  induction members generalizing done with
  | nil => exact ⟨done, rfl, fun _ _ => rfl⟩
  | cons member rest ih =>
    obtain ⟨key, value⟩ := member
    obtain ⟨absent, distinct⟩ := List.nodup_cons.1 distinct
    have fitsRest : ∀ field ∈ fields, field.Fits origin rest := fun field known =>
      (fits field known).tail absent
    rw [Outline.ofMembers, ofMembers]
    simp only [Decoder.key, bind, Except.bind]
    cases found : fields.find? (·.name == key) with
    | none =>
      obtain ⟨values, read, look⟩ := ih distinct fitsRest done fun other present =>
        fresh other (List.mem_cons_of_mem key present)
      refine ⟨values, by rw [skip_ofJson]; exact read, fun field known => ?_⟩
      have other : key ≠ field.name := by
        rintro rfl
        exact List.find?_eq_none.1 found field known (beq_self_eq_true _)
      rw [look field known, lookup?, if_neg other]
    | some field =>
      have known := List.mem_of_find?_eq_some found
      have named : field.name = key := by simpa using List.find?_some found
      have check := fits field known value (if_pos named.symm)
      obtain ⟨values, read, look⟩ :=
        ih distinct fitsRest _ (lookup_cons_eq_none absent fresh (ofJson value))
      refine ⟨values, ?_, fun field known => ?_⟩
      · simp only [fresh key List.mem_cons_self, Option.isSome_none, Bool.false_eq_true, if_false,
          check, read]
      · rw [look field known, List.lookup_cons]
        by_cases same : key = field.name
        · rw [← same, lookup?_eq_none_iff.2 absent, lookup?, if_pos rfl, beq_self_eq_true]
          rfl
        · rw [lookup?, if_neg same, beq_false_of_ne (Ne.symm same)]

theorem forIn_eq_ok {α ε : Type} {items : List α} {body : α → PUnit → Except ε (ForInStep PUnit)}
    (steps : ∀ item ∈ items, body item ⟨⟩ = .ok (.yield ⟨⟩)) : forIn items ⟨⟩ body = .ok ⟨⟩ := by
  induction items with
  | nil => rfl
  | cons item rest ih =>
    rw [List.forIn_cons, steps item List.mem_cons_self]
    exact ih fun other member => steps other (List.mem_cons_of_mem item member)

/-- An object with distinct keys is read as a record when the fields that it has pass their checks
and no other field is required. -/
theorem read_ofJson {fields : List Field} {origin inside : Origin}
    {members : List (String × Json)} (enter : origin.enter = .ok inside)
    (distinct : (keys members).Nodup) (fits : ∀ field ∈ fields, field.Fits inside members)
    (complete : ∀ field ∈ fields, field.required = true → field.name ∈ keys members)
    (name : String) :
    ∃ values, read name fields origin (ofJson (.object members)) = .ok ⟨inside, values⟩ ∧
      ∀ field ∈ fields, values.lookup field.name = (lookup? field.name members).map ofJson := by
  obtain ⟨values, gathered, look⟩ := ofMembers_ofJson distinct fits [] fun _ _ => rfl
  have look : ∀ field ∈ fields, values.lookup field.name =
      (lookup? field.name members).map ofJson := by
    intro field known
    rw [look field known, List.lookup_nil, Option.or_none]
  refine ⟨values, ?_, look⟩
  rw [ofJson, read, enter]
  simp only [bind, Except.bind, gathered]
  rw [forIn_eq_ok]
  · rfl
  · intro field known
    split
    · next absent =>
      have missing : lookup? field.name members = none := by
        simpa [look field known] using absent
      have optional : field.required = false := by
        cases required : field.required with
        | false => rfl
        | true => exact absurd (complete field known required) (lookup?_eq_none_iff.1 missing)
      simp only [Field.missing?, optional]
      rfl
    · rfl

/-- The members have the name, and what it stands for is decoded to the thing. -/
def Gives {α : Type} (origin : Origin) (members : List (String × Json)) (name : String)
    (decoder : Decoder α) (thing : α) : Prop :=
  ∃ value, lookup? name members = some value ∧ decoder origin (ofJson value) = .ok thing

section Gives

variable {α : Type} {origin : Origin} {members : List (String × Json)} {name : String}
  {decoder : Decoder α} {thing : α} (gives : Gives origin members name decoder thing)

include gives

theorem Gives.fits_optional : (Field.optional name decoder).Fits origin members := by
  obtain ⟨value, found, decoded⟩ := gives
  intro other same
  cases found.symm.trans same
  simp only [Field.optional, decoded]
  rfl

theorem Gives.get {values : List (String × Outline)}
    (look : values.lookup name = (lookup? name members).map ofJson) (default : α) :
    get ⟨origin, values⟩ name decoder default = .ok thing := by
  obtain ⟨value, found, decoded⟩ := gives
  simp only [Record.get, look, found, Option.map_some, decoded]

end Gives

end Record

namespace Decoder

/-- The decoder makes the thing of all that holds the value, where brackets may stand inside one
another to the depth. -/
def Makes {α : Type} (decoder : Decoder α) (depth : Nat) (value : Json) (thing : α) : Prop :=
  ∀ origin whole, origin.Allows depth → Holds whole value → decoder origin (ofJson whole) = .ok thing

theorem makes_string (depth : Nat) (text : String) :
    Makes Decoder.string depth (.string text) text := by
  rintro origin _ _ rfl
  rfl

theorem makes_bool (depth : Nat) (value : Bool) : Makes Decoder.bool depth (.bool value) value := by
  rintro origin _ _ rfl
  rfl

theorem makes_items {α : Type} {decoder : Decoder α} {encode : α → Json} {depth : Nat}
    {origin : Origin} (allows : origin.Allows depth) {things : List α}
    (makes : ∀ thing ∈ things, Makes decoder depth (encode thing) thing) {others : List Json}
    (holds : HoldsItems others (things.map encode)) :
    items decoder origin (ofItems others) = .ok things := by
  induction things generalizing others with
  | nil =>
    cases holds
    rfl
  | cons thing things ih =>
    obtain ⟨first, tail, rfl, held, rest⟩ := holds
    have made := makes thing List.mem_cons_self origin first allows held
    have later := ih (fun other member => makes other (List.mem_cons_of_mem thing member)) rest
    simp only [ofItems, items, made, later]
    rfl

theorem makes_list {α : Type} {decoder : Decoder α} {encode : α → Json} {depth : Nat}
    {things : List α} (makes : ∀ thing ∈ things, Makes decoder depth (encode thing) thing) :
    Makes (list decoder) (depth + 1) (.array (things.map encode)) things := by
  rintro origin _ allows ⟨others, rfl, holds⟩
  obtain ⟨inside, enter, allowed⟩ := allows.enter
  simp only [ofJson, list, enter, makes_items allowed makes holds, bind, Except.bind]
  rfl

/-- What holds the member gives the thing that is made of it. -/
theorem Makes.gives {α : Type} {decoder : Decoder α} {depth : Nat} {value : Json} {thing : α}
    (makes : Makes decoder depth value thing) {origin : Origin} (allows : origin.Allows depth)
    {members : List (String × Json)} {name : String}
    (holds : ∃ held, lookup? name members = some held ∧ Holds held value) :
    Record.Gives origin members name decoder thing := by
  obtain ⟨held, found, held'⟩ := holds
  exact ⟨held, found, makes origin held allows held'⟩

/-- A record without required fields makes the thing of an object when each field that is there
passes its check and the thing is put together from what the fields give. -/
theorem makes_record {α : Type} {fields : List Field} {depth : Nat}
    {members : List (String × Json)} {thing : α} (name : String)
    {build : Record → Except Misfit α} (optional : ∀ field ∈ fields, field.required = false)
    (built : ∀ origin others, origin.Allows depth → HoldsMembers others members →
      (∀ field ∈ fields, field.Fits origin others) ∧
      ∀ record : Record, record.origin = origin →
        (∀ field ∈ fields, record.values.lookup field.name =
          (lookup? field.name others).map ofJson) → build record = .ok thing) :
    Makes (fun origin value => Record.read name fields origin value >>= build) (depth + 1)
      (.object members) thing := by
  rintro origin _ allows ⟨others, rfl, distinct, holds⟩
  obtain ⟨inside, enter, allowed⟩ := allows.enter
  obtain ⟨fits, builds⟩ := built inside others allowed holds
  have complete := Field.complete_of_optional optional others
  obtain ⟨values, read, look⟩ := Record.read_ofJson enter distinct fits complete name
  simp only [read, bind, Except.bind]
  exact builds _ rfl look

/-- A thing is read back from the compact text of a value of which it is made. -/
theorem Makes.ofText_compact {α : Type} {decoder : Decoder α} {depth : Nat} {value : Json}
    {thing : α} (makes : Makes decoder depth value thing) (shallow : depth ≤ maxDepth)
    (integral : IsIntegral value) (distinct : IsDistinct value) :
    decoder.ofText value.compact = .ok thing := by
  rw [ofText_of_isIntegral integral (spells_compact value)]
  exact makes _ value shallow (holds_self distinct)

end Decoder

end CommandSynthesis
