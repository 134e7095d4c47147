import CommandSynthesis.Proofs.Json.Record

set_option autoImplicit false

/-!
# Texts and values decode alike

A decoder that looks at what the text of a value is read as, and one that looks at the value itself,
go through the same steps: either both make the same thing or neither makes any. What they say of a
value that does not fit may differ, and so may a number that is no integer of 64 bits, of which
nothing can be made.
-/

namespace CommandSynthesis

open Json Outline

/-- Both succeed, with results that are related, or both fail. -/
inductive InStep {ε α β : Type} (related : α → β → Prop) : Except ε α → Except ε β → Prop where
  | failed (first second : ε) : InStep related (.error first) (.error second)
  | done {first : α} {second : β} : related first second → InStep related (.ok first) (.ok second)

namespace InStep

variable {ε α β γ δ : Type} {related : α → β → Prop} {first : Except ε α} {second : Except ε β}

theorem refl (result : Except ε α) : InStep Eq result result := by
  cases result with
  | error failure => exact .failed failure failure
  | ok value => exact .done rfl

theorem bind {next : α → Except ε γ} {other : β → Except ε δ} {after : γ → δ → Prop}
    (before : InStep related first second)
    (steps : ∀ {value result}, related value result → InStep after (next value) (other result)) :
    InStep after (first >>= next) (second >>= other) := by
  cases before with
  | failed failure failure' => exact .failed failure failure'
  | done same => exact steps same

/-- Steps that make the same thing are followed by steps from that thing. -/
theorem bind_eq {first second : Except ε α} {next : α → Except ε γ} {other : α → Except ε δ}
    {after : γ → δ → Prop} (before : InStep Eq first second)
    (steps : ∀ value, InStep after (next value) (other value)) :
    InStep after (first >>= next) (second >>= other) := by
  apply before.bind
  rintro value _ rfl
  exact steps value

/-- Whatever a step makes, what follows it fails. -/
theorem bind_failed {next : α → Except ε γ} {failure : ε} {after : γ → δ → Prop}
    (steps : ∀ value, InStep after (next value) (.error failure)) :
    InStep after (first >>= next) (.error failure) := by
  cases first with
  | error failure' => exact .failed failure' failure
  | ok value => exact steps value

theorem map {f : α → γ} {g : β → δ} {after : γ → δ → Prop} (before : InStep related first second)
    (same : ∀ {value result}, related value result → after (f value) (g result)) :
    InStep after (first.map f) (second.map g) := by
  cases before with
  | failed failure failure' => exact .failed failure failure'
  | done holds => exact .done (same holds)

theorem ok_iff {first second : Except ε α} (inStep : InStep Eq first second) {thing : α} :
    first = .ok thing ↔ second = .ok thing := by
  cases inStep with
  | failed failure failure' =>
    constructor
    · intro made
      cases made
    · intro made
      cases made
  | done same => rw [same]

end InStep

namespace Outline

mutual

theorem skip_reread : ∀ value : Json, skip (reread value) = .ok ()
  | .null => rfl
  | .bool _ => rfl
  | .string _ => rfl
  | .number _ => rfl
  | .array items => by rw [reread, skip, skipItems_rereadItems items]; rfl
  | .object members => by rw [reread, skip, skipMembers_rereadMembers members]; rfl

theorem skipItems_rereadItems : ∀ items : List Json, skipItems (rereadItems items) = .ok ()
  | [] => rfl
  | item :: rest => by
    rw [rereadItems, skipItems, skip_reread item, skipItems_rereadItems rest]
    rfl

theorem skipMembers_rereadMembers :
    ∀ members : List (String × Json), skipMembers (rereadMembers members) = .ok ()
  | [] => rfl
  | (key, value) :: rest => by
    rw [rereadMembers, skipMembers, skip_reread value, skipMembers_rereadMembers rest]
    rfl

end

end Outline

namespace Decoder

variable {α : Type} {decoder : Decoder α} {depth : Nat}

/-- The decoder makes the same of a value and of what its text is read as, where brackets may stand
inside one another to the depth. -/
def Agrees (decoder : Decoder α) (depth : Nat) : Prop :=
  ∀ origin value, origin.Allows depth →
    InStep Eq (decoder origin (reread value)) (decoder.ofValue value)

theorem agrees_string (depth : Nat) : Agrees Decoder.string depth := by
  intro origin value _
  cases value with
  | string text => exact .done rfl
  | _ => exact .failed _ _

theorem agrees_bool (depth : Nat) : Agrees Decoder.bool depth := by
  intro origin value _
  cases value with
  | bool value => exact .done rfl
  | _ => exact .failed _ _

/-- Integers of a type of at most 64 bits are made of the same numbers. -/
theorem agrees_integer (expected : String) {low high : Int} (above : -0x8000000000000000 ≤ low)
    (below : high ≤ 0xFFFFFFFFFFFFFFFF) (depth : Nat) :
    Agrees (integer expected low high) depth := by
  intro origin value _
  cases value with
  | number value =>
    rw [reread]
    rcases value.reread_spec.1 with same | ⟨outside, real, same⟩
    · rw [same]
      cases value <;> exact .refl _
    · have left : ∃ misfit, integer expected low high origin (.number (real.map .real)) =
          .error misfit := by
        cases real with
        | none => exact ⟨_, rfl⟩
        | some real => exact ⟨_, rfl⟩
      have right : ∃ misfit, (integer expected low high).ofValue (.number value) =
          .error misfit := by
        cases value with
        | real value => exact ⟨_, rfl⟩
        | integer value =>
          have bounds : ¬ (low ≤ value ∧ value ≤ high) := by
            intro inside
            exact outside ⟨by omega, by omega⟩
          exact ⟨_, if_neg bounds⟩
      obtain ⟨_, left⟩ := left
      obtain ⟨_, right⟩ := right
      rw [same, left, right]
      exact .failed _ _
  | _ => exact .failed _ _

theorem agrees_natural (expected : String) (depth : Nat) : Agrees (natural expected) depth := by
  intro origin value allows
  have bounds : (-0x8000000000000000 : Int) ≤ 0 := by decide
  have inStep := agrees_integer expected bounds (Int.le_refl _) depth origin value allows
  exact inStep.map fun same => congrArg Int.toNat same

/-- A list is made of the same items. -/
theorem Agrees.list (agrees : Agrees decoder depth) : Agrees (list decoder) (depth + 1) := by
  intro origin value allows
  cases value with
  | array contents =>
    obtain ⟨inside, enter, allowed⟩ := allows.enter
    have items : InStep Eq (Decoder.items decoder inside (rereadItems contents))
        (Decoder.items decoder .value (ofItems contents)) := by
      induction contents with
      | nil => exact .done rfl
      | cons item rest ih =>
        apply (agrees inside item allowed).bind_eq
        intro first
        apply ih.bind_eq
        intro others
        exact .done rfl
    rw [reread, Decoder.list, enter]
    exact items.bind_eq fun things => .done rfl
  | _ => exact .failed _ _

/-- One of the values in a table is made of the same names. -/
theorem agrees_variant (table : List (String × α)) (depth : Nat) :
    Agrees (variant table) (depth + 1) := by
  intro origin value allows
  cases value with
  | string text =>
    cases origin <;> exact .refl _
  | object members =>
    rcases members with _ | ⟨⟨name, content⟩, _ | ⟨other, rest⟩⟩
    · cases origin with
      | text allowed => cases allowed <;> exact .failed _ _
      | _ => exact .failed _ _
    · have named := InStep.refl (byName table (table.map Prod.fst) name)
      rcases origin with (_ | allowed) | _ | _
      · cases allows
      all_goals
        apply named.bind_eq
        intro thing
        cases content with
        | null => exact .done rfl
        | _ => exact .failed _ _
    · rcases origin with (_ | allowed) | _ | _
      · cases allows
      · apply InStep.bind_failed
        intro given
        apply InStep.bind_failed
        intro thing
        dsimp only
        split <;> exact .failed _ _
      · exact .failed _ _
      · exact .failed _ _
  | _ => cases origin <;> exact .failed _ _

end Decoder

/-- The check of the field comes to the same for a value and for what its text is read as. -/
def Field.Agrees (field : Field) (depth : Nat) : Prop :=
  ∀ origin value, origin.Allows depth →
    InStep Eq (field.check origin (reread value)) (field.check .value (ofJson value))

theorem Decoder.Agrees.optional {α : Type} {decoder : Decoder α} {depth : Nat}
    (agrees : decoder.Agrees depth) (name : String) :
    (Field.optional name decoder).Agrees depth := by
  intro origin value allows
  exact (agrees origin value allows).map fun _ => rfl

namespace Record

/-- The values of the same members, of which the first are as their texts are read. -/
def Alike (values others : List (String × Outline)) : Prop :=
  ∃ members : List (String × Json),
    values = members.map (fun (name, value) => (name, reread value)) ∧
    others = members.map (fun (name, value) => (name, ofJson value))

theorem alike_nil : Alike [] [] := ⟨[], rfl, rfl⟩

theorem Alike.cons {values others : List (String × Outline)} (alike : Alike values others)
    (name : String) (value : Json) :
    Alike ((name, reread value) :: values) ((name, ofJson value) :: others) := by
  obtain ⟨members, rfl, rfl⟩ := alike
  exact ⟨(name, value) :: members, rfl, rfl⟩

theorem Alike.lookup {values others : List (String × Outline)} (alike : Alike values others)
    (name : String) : ∃ slot : Option Json,
      values.lookup name = slot.map reread ∧ others.lookup name = slot.map ofJson := by
  obtain ⟨members, rfl, rfl⟩ := alike
  induction members with
  | nil => exact ⟨none, rfl, rfl⟩
  | cons member rest ih =>
    obtain ⟨other, value⟩ := member
    simp only [List.map_cons, List.lookup_cons]
    cases name == other with
    | true => exact ⟨some value, rfl, rfl⟩
    | false => exact ih

theorem Alike.isSome_lookup {values others : List (String × Outline)} (alike : Alike values others)
    (name : String) : (values.lookup name).isSome = (others.lookup name).isSome := by
  obtain ⟨slot, left, right⟩ := alike.lookup name
  rw [left, right, Option.isSome_map, Option.isSome_map]

variable {fields : List Field} {depth : Nat} {inside : Origin}

theorem inStep_ofMembers (agrees : ∀ field ∈ fields, field.Agrees depth)
    (allows : inside.Allows depth) {done done' : List (String × Outline)} (alike : Alike done done')
    (members : List (String × Json)) :
    InStep Alike (ofMembers fields inside done (rereadMembers members))
      (ofMembers fields .value done' (Outline.ofMembers members)) := by
  induction members generalizing done done' with
  | nil => exact .done alike
  | cons member rest ih =>
    obtain ⟨key, value⟩ := member
    rw [rereadMembers, Outline.ofMembers, ofMembers, ofMembers]
    apply (InStep.refl (Decoder.key (.string (some key)))).bind_eq
    intro name
    cases found : fields.find? (·.name == name) with
    | none =>
      simp only [skip_reread, skip_ofJson]
      exact ih alike
    | some field =>
      have checked := agrees field (List.mem_of_find?_eq_some found) inside value allows
      simp only [alike.isSome_lookup name]
      split
      · exact .failed _ _
      · exact checked.bind_eq fun _ => ih (alike.cons name value)

/-- A record that is given as the list of its fields. -/
theorem inStep_ofItems (agrees : ∀ field ∈ fields, field.Agrees depth)
    (allows : inside.Allows depth) (expected : String) (before : Nat) (contents : List Json) :
    InStep Alike (ofItems expected inside before none fields (rereadItems contents))
      (ofItems expected .value before none fields (Outline.ofItems contents)) := by
  induction fields generalizing before contents with
  | nil =>
    cases contents with
    | nil => exact .done alike_nil
    | cons item rest => exact .failed _ _
  | cons field fields ih =>
    have first := agrees field List.mem_cons_self
    have others := fun other known => agrees other (List.mem_cons_of_mem field known)
    cases contents with
    | nil =>
      rw [rereadItems, Outline.ofItems, ofItems, ofItems]
      apply (InStep.refl (Misfit.stopped none)).bind_eq
      intro _
      dsimp only
      split
      · exact .failed _ _
      · exact ih others (before + 1) []
    | cons item rest =>
      apply (first inside item allows).bind_eq
      intro _
      apply (ih others (before + 1) rest).bind
      intro values result alike
      exact .done (alike.cons field.name item)

/-- The same record, of which the first is read from a text in which brackets may still stand inside
one another to the depth. -/
structure Rereads (depth : Nat) (first second : Record) : Prop where
  allows : first.origin.Allows depth
  origin : second.origin = .value
  values : Alike first.values second.values

theorem inStep_read (agrees : ∀ field ∈ fields, field.Agrees depth) (name : String)
    {origin : Origin} (allows : origin.Allows (depth + 1)) (value : Json) :
    InStep (Rereads depth) (read name fields origin (reread value))
      (read name fields .value (ofJson value)) := by
  obtain ⟨inside, enter, allowed⟩ := allows.enter
  cases value with
  | object members =>
    rw [reread, ofJson, read, read, enter]
    apply (inStep_ofMembers agrees allowed alike_nil members).bind
    intro values result alike
    apply (InStep.refl (Misfit.stopped none)).bind_eq
    intro _
    have same (field : Field) :
        (values.lookup field.name).isNone = (result.lookup field.name).isNone := by
      rw [← Option.not_isSome, ← Option.not_isSome, alike.isSome_lookup]
    simp only [same]
    apply (InStep.refl _).bind_eq
    intro _
    exact .done ⟨allowed, rfl, alike⟩
  | array contents =>
    rw [reread, ofJson, read, read, enter]
    apply (inStep_ofItems agrees allowed _ 0 contents).bind
    intro values result alike
    exact .done ⟨allowed, rfl, alike⟩
  | _ => exact .failed _ _

theorem Rereads.get {α : Type} {decoder : Decoder α} {first second : Record}
    (rereads : Rereads depth first second) (agrees : decoder.Agrees depth) (name : String)
    (default : α) :
    InStep Eq (first.get name decoder default) (second.get name decoder default) := by
  obtain ⟨slot, left, right⟩ := rereads.values.lookup name
  rw [Record.get, Record.get, left, right, rereads.origin]
  cases slot with
  | none => exact .done rfl
  | some value => exact agrees first.origin value rereads.allows

end Record

/-- A record is made of the same fields. -/
theorem Decoder.agrees_record {α : Type} {fields : List Field} {depth : Nat}
    {build : Record → Except Misfit α} (name : String)
    (agrees : ∀ field ∈ fields, field.Agrees depth)
    (built : ∀ {first second : Record}, Record.Rereads depth first second →
      InStep Eq (build first) (build second)) :
    Agrees (fun origin value => Record.read name fields origin value >>= build) (depth + 1) := by
  intro origin value allows
  exact (Record.inStep_read agrees name allows value).bind built

end CommandSynthesis
