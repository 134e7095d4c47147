import CommandSynthesis.Proofs.Json.Fields

set_option autoImplicit false

/-!
# Values that are recovered

A thing is recovered from a value when it is decoded from just this value, wherever it stands. Of
members that are left out when they have nothing to say, each is recovered as the default of its
field.
-/

namespace CommandSynthesis

open Json Outline

namespace Decoder

/-- The decoder makes the thing of the value, where brackets may stand inside one another to the
depth; and the value is read back as it is written. -/
structure Recovers {α : Type} (decoder : Decoder α) (depth : Nat) (value : Json) (thing : α) :
    Prop where
  integral : IsIntegral value
  decodes : ∀ origin, origin.Allows depth → decoder origin (ofJson value) = .ok thing

variable {α β : Type} {decoder : Decoder α} {depth : Nat} {value : Json} {thing : α}

theorem Makes.recovers (makes : Makes decoder depth value thing) (integral : IsIntegral value)
    (distinct : IsDistinct value) : Recovers decoder depth value thing where
  integral := integral
  decodes origin allows := makes origin value allows (holds_self distinct)

theorem recovers_string (depth : Nat) (text : String) :
    Recovers Decoder.string depth (.string text) text :=
  (makes_string depth text).recovers trivial trivial

theorem recovers_bool (depth : Nat) (value : Bool) :
    Recovers Decoder.bool depth (.bool value) value :=
  (makes_bool depth value).recovers trivial trivial

theorem Recovers.nullable (recovers : Recovers decoder depth value thing) (given : value ≠ .null) :
    Recovers (nullable decoder) depth value (some thing) where
  integral := recovers.integral
  decodes origin allows := by
    have decoded := recovers.decodes origin allows
    cases value with
    | null => exact absurd rfl given
    | _ =>
      simp only [ofJson] at decoded ⊢
      simp only [Decoder.nullable, decoded]
      rfl

/-- A list is recovered item by item. -/
theorem recovers_list {items : List Json} {things : List α}
    (recovers : List.Forall₂ (Recovers decoder depth) items things) :
    Recovers (list decoder) (depth + 1) (.array items) things where
  integral := by
    induction recovers with
    | nil => trivial
    | cons first _ ih => exact ⟨first.integral, ih⟩
  decodes origin allows := by
    obtain ⟨inside, enter, allowed⟩ := allows.enter
    have decoded : Decoder.items decoder inside (ofItems items) = .ok things := by
      induction recovers with
      | nil => rfl
      | cons first _ ih =>
        simp only [ofItems, Decoder.items, first.decodes inside allowed, ih, bind, Except.bind]
        rfl
    simp only [ofJson, list, enter, decoded, bind, Except.bind]
    rfl

/-- A thing is recovered from both written forms. -/
theorem Recovers.ofText (recovers : Recovers decoder depth value thing)
    (shallow : depth ≤ maxDepth) :
    decoder.ofText value.compact = .ok thing ∧ decoder.ofText value.pretty = .ok thing := by
  rw [ofText_of_isIntegral recovers.integral (spells_compact value),
    ofText_of_isIntegral recovers.integral (spells_pretty value)]
  exact ⟨recovers.decodes _ shallow, recovers.decodes _ shallow⟩

/-- A slot holds a value from which the thing is recovered, or is empty and the thing is the
default. -/
def RecoversOr (decoder : Decoder α) (depth : Nat) (slot : Option Json) (default thing : α) :
    Prop :=
  match slot with
  | some value => Recovers decoder depth value thing
  | none => thing = default

theorem Recovers.recoversOr (recovers : Recovers decoder depth value thing) (default : α) :
    RecoversOr decoder depth (some value) default thing :=
  recovers

/-! ## What is decoded -/

/-- All that the decoder makes has the property, whatever it is made of. -/
def Yields (decoder : Decoder α) (property : α → Prop) : Prop :=
  ∀ origin value thing, decoder origin value = .ok thing → property thing

variable {property : α → Prop}

theorem Yields.nullable (yields : Yields decoder property) :
    Yields (nullable decoder) fun thing => ∀ inner, thing = some inner → property inner := by
  intro origin value _ decoded inner same
  cases same
  unfold Decoder.nullable at decoded
  split at decoded
  · cases decoded
  · cases made : decoder origin value with
    | error misfit =>
      rw [made] at decoded
      cases decoded
    | ok result =>
      rw [made] at decoded
      cases decoded
      exact yields origin value inner made

theorem Yields.items (yields : Yields decoder property) {origin : Origin}
    {contents : List Outline} {things : List α}
    (decoded : Decoder.items decoder origin contents = .ok things) :
    ∀ thing ∈ things, property thing := by
  induction contents generalizing things with
  | nil =>
    cases decoded
    exact List.forall_mem_nil _
  | cons item rest ih =>
    simp only [Decoder.items, bind_eq_ok_iff] at decoded
    obtain ⟨first, made, later, decoded, same⟩ := decoded
    cases same
    rw [List.forall_mem_cons]
    exact ⟨yields origin item first made, ih decoded⟩

theorem Yields.list (yields : Yields decoder property) :
    Yields (list decoder) fun things => ∀ thing ∈ things, property thing := by
  intro origin value things decoded
  cases value with
  | array contents stop =>
    simp only [Decoder.list, bind_eq_ok_iff] at decoded
    obtain ⟨inside, _, _, decoded, _, _, same⟩ := decoded
    cases same
    exact yields.items decoded
  | _ => cases decoded

theorem Yields.get (yields : Yields decoder property) {record : Record} {name : String}
    {default : α} (plain : property default) (got : record.get name decoder default = .ok thing) :
    property thing := by
  unfold Record.get at got
  split at got
  · exact yields _ _ thing got
  · cases got
    exact plain

theorem Yields.ofText (yields : Yields decoder property) {text : String}
    (decoded : decoder.ofText text = .ok thing) : property thing := by
  simp only [Decoder.ofText, bind_eq_ok_iff] at decoded
  obtain ⟨_, made, _, _, same⟩ := decoded
  cases same
  exact yields _ _ thing made

end Decoder

namespace Record

variable {α : Type} {decoder : Decoder α} {depth : Nat} {origin : Origin}
  {members : List (String × Json)} {name : String} {value : Json} {default thing : α}

theorem gives_of_recovers (recovers : decoder.Recovers depth value thing)
    (allows : origin.Allows depth) (look : lookup? name members = some value) :
    Gives origin members name decoder thing :=
  ⟨value, look, recovers.decodes origin allows⟩

theorem givesOr_of_recoversOr {slot : Option Json}
    (recovers : decoder.RecoversOr depth slot default thing) (allows : origin.Allows depth)
    (look : lookup? name members = slot) : GivesOr origin members name decoder default thing := by
  rw [GivesOr, look]
  cases slot with
  | none => exact recovers
  | some value => exact Decoder.Recovers.decodes recovers origin allows

end Record

end CommandSynthesis
