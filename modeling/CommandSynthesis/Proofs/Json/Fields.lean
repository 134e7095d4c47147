import CommandSynthesis.Proofs.Json.Record
import Mathlib.Data.List.Nodup

set_option autoImplicit false

/-!
# Fields of records

What a record is read from decides what its fields are, and the other way round: when reading
succeeds, every field that is there has passed its check. So a record of optional fields is decoded
exactly when each field that is there can be, and those that are not have their defaults.
-/

namespace CommandSynthesis

open Json Outline

theorem bind_eq_ok_iff {ε α β : Type} {first : Except ε α} {next : α → Except ε β} {result : β} :
    first >>= next = .ok result ↔ ∃ value, first = .ok value ∧ next value = .ok result := by
  cases first with
  | error failure =>
    constructor
    · intro failed
      cases failed
    · rintro ⟨value, failed, _⟩
      cases failed
  | ok value =>
    constructor
    · intro done
      exact ⟨value, rfl, done⟩
    · rintro ⟨_, same, done⟩
      cases same
      exact done

namespace Record

/-- What the members have under the name is decoded to the thing; when they have nothing there, the
thing is the default. -/
def GivesOr {α : Type} (origin : Origin) (members : List (String × Json)) (name : String)
    (decoder : Decoder α) (default thing : α) : Prop :=
  match lookup? name members with
  | some value => decoder origin (ofJson value) = .ok thing
  | none => thing = default

section Gives

variable {α : Type} {origin : Origin} {members : List (String × Json)} {name : String}
  {decoder : Decoder α} {default thing : α}

theorem Gives.fits_mandatory (gives : Gives origin members name decoder thing) :
    (Field.mandatory name decoder).Fits origin members :=
  gives.fits_optional

theorem Gives.mem_keys (gives : Gives origin members name decoder thing) : name ∈ keys members := by
  obtain ⟨value, found, _⟩ := gives
  refine Classical.byContradiction fun missing => ?_
  rw [lookup?_eq_none_iff.2 missing] at found
  cases found

theorem Gives.require (gives : Gives origin members name decoder thing)
    {values : List (String × Outline)}
    (look : values.lookup name = (lookup? name members).map ofJson) :
    require ⟨origin, values⟩ name decoder = .ok thing := by
  obtain ⟨value, found, decoded⟩ := gives
  simp only [Record.require, look, found, Option.map_some, decoded]

theorem GivesOr.fits (gives : GivesOr origin members name decoder default thing) :
    (Field.optional name decoder).Fits origin members := by
  intro value found
  rw [GivesOr, show lookup? name members = some value from found] at gives
  simp only [Field.optional, gives]
  rfl

theorem get_eq_ok_iff {values : List (String × Outline)}
    (look : values.lookup name = (lookup? name members).map ofJson) :
    get ⟨origin, values⟩ name decoder default = .ok thing ↔
      GivesOr origin members name decoder default thing := by
  simp only [Record.get, look, GivesOr]
  cases lookup? name members with
  | none =>
    constructor
    · intro same
      exact (Except.ok.inj same).symm
    · rintro rfl
      rfl
  | some value => exact Iff.rfl

theorem GivesOr.get {values : List (String × Outline)}
    (gives : GivesOr origin members name decoder default thing)
    (look : values.lookup name = (lookup? name members).map ofJson) :
    get ⟨origin, values⟩ name decoder default = .ok thing :=
  (get_eq_ok_iff look).2 gives

end Gives

/-- Members that are gathered have passed the checks of the fields that they belong to. -/
theorem fits_of_ofMembers {fields : List Field} {origin : Origin} {members : List (String × Json)}
    {done values : List (String × Outline)} (named : (fields.map Field.name).Nodup)
    (gathered : ofMembers fields origin done (Outline.ofMembers members) = .ok values)
    (distinct : (keys members).Nodup) : ∀ field ∈ fields, field.Fits origin members := by
  induction members generalizing done with
  | nil =>
    intro field _ value found
    cases found
  | cons member rest ih =>
    obtain ⟨key, first⟩ := member
    obtain ⟨absent, distinct⟩ := List.nodup_cons.1 distinct
    rw [Outline.ofMembers, ofMembers] at gathered
    simp only [Decoder.key, bind, Except.bind] at gathered
    intro field known value found
    rw [lookup?] at found
    cases sought : fields.find? (·.name == key) with
    | none =>
      rw [sought, skip_ofJson] at gathered
      have other : key ≠ field.name := by
        rintro rfl
        exact List.find?_eq_none.1 sought field known (beq_self_eq_true _)
      rw [if_neg other] at found
      exact ih gathered distinct field known value found
    | some owner =>
      rw [sought] at gathered
      dsimp only at gathered
      split at gathered
      · cases gathered
      obtain ⟨_, checked, gathered⟩ := bind_eq_ok_iff.1 gathered
      split at found
      · next same =>
        cases found
        have ownerKnown := List.mem_of_find?_eq_some sought
        have ownerNamed : owner.name = key := by simpa using List.find?_some sought
        have same : owner = field :=
          List.inj_on_of_nodup_map named ownerKnown known (ownerNamed.trans same)
        exact same ▸ checked
      · exact ih gathered distinct field known value found

theorem gathered_of_read {fields : List Field} {origin inside : Origin}
    {members : List (String × Json)} {name : String} {record : Record}
    (enter : origin.enter = .ok inside)
    (read : Record.read name fields origin (ofJson (.object members)) = .ok record) :
    record.origin = inside ∧
      ofMembers fields inside [] (Outline.ofMembers members) = .ok record.values := by
  rw [ofJson, Record.read, enter] at read
  obtain ⟨_, entered, read⟩ := bind_eq_ok_iff.1 read
  cases entered
  obtain ⟨values, gathered, read⟩ := bind_eq_ok_iff.1 read
  obtain ⟨_, _, read⟩ := bind_eq_ok_iff.1 read
  obtain ⟨_, _, read⟩ := bind_eq_ok_iff.1 read
  cases read
  exact ⟨rfl, gathered⟩

/-- A record is read and built into a thing when the fields that are there pass their checks, none
is missing, and their values make the thing. -/
theorem read_bind_of_fits {α : Type} {fields : List Field} {origin inside : Origin}
    {members : List (String × Json)} {build : Record → Except Misfit α} {thing : α}
    (enter : origin.enter = .ok inside) (distinct : (keys members).Nodup)
    (fits : ∀ field ∈ fields, field.Fits inside members)
    (complete : ∀ field ∈ fields, field.required = true → field.name ∈ keys members)
    (built : ∀ values,
      (∀ field ∈ fields, values.lookup field.name = (lookup? field.name members).map ofJson) →
        build ⟨inside, values⟩ = .ok thing) (name : String) :
    Record.read name fields origin (ofJson (.object members)) >>= build = .ok thing := by
  obtain ⟨values, read, look⟩ := read_ofJson enter distinct fits complete name
  rw [read]
  exact built values look

/-- What a record without required fields is read from and built into is said by a condition on the
members, if that is what the building comes to and the condition lets all fields pass their checks.
-/
theorem read_bind_eq_ok_iff {α : Type} {fields : List Field} {origin inside : Origin}
    {members : List (String × Json)} {build : Record → Except Misfit α} {thing : α}
    {condition : Prop} (enter : origin.enter = .ok inside)
    (named : (fields.map Field.name).Nodup) (distinct : (keys members).Nodup)
    (optional : ∀ field ∈ fields, field.required = false)
    (fits : condition → ∀ field ∈ fields, field.Fits inside members)
    (builds : ∀ values,
      (∀ field ∈ fields, values.lookup field.name = (lookup? field.name members).map ofJson) →
        (build ⟨inside, values⟩ = .ok thing ↔ condition)) (name : String) :
    Record.read name fields origin (ofJson (.object members)) >>= build = .ok thing ↔
      condition := by
  constructor
  · intro decoded
    obtain ⟨⟨_, values⟩, read, built⟩ := bind_eq_ok_iff.1 decoded
    obtain ⟨rfl, gathered⟩ := gathered_of_read enter read
    have fits := fits_of_ofMembers named gathered distinct
    obtain ⟨_, same, look⟩ := ofMembers_ofJson distinct fits [] fun _ _ => rfl
    cases gathered.symm.trans same
    refine (builds values fun field known => ?_).1 built
    rw [look field known, List.lookup_nil, Option.or_none]
  · intro holds
    have complete := Field.complete_of_optional optional members
    exact read_bind_of_fits enter distinct (fits holds) complete
      (fun values look => (builds values look).2 holds) name

end Record

end CommandSynthesis
