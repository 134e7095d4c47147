import CommandSynthesis.Proofs.Json.Fields
import CommandSynthesis.Proofs.Preferences.RoundTrip

set_option autoImplicit false

/-!
# Patches

What a patch makes of a record, field by field: a field that the patch gives has the value given,
and any other field has the value it had. A section of a layout that the patch gives as an object is
patched in the same way, and one that it gives as any other value is replaced. This is what comes of
laying the patch over what is written for the record and decoding the result.
-/

namespace CommandSynthesis

open Json Outline

/-! ## Rules for fields -/

/-- What a value in a patch makes of an old thing. -/
abbrev PatchRule (α : Type) := Json → α → α → Prop

/-- The new thing of a field: by the rule from what the patch has under the name, and the old thing
when the patch has nothing there. -/
def Takes {α : Type} (rule : PatchRule α) (name : String) (patch : List (String × Json))
    (old new : α) : Prop :=
  match lookup? name patch with
  | some value => rule value old new
  | none => new = old

namespace PatchRule

variable {α : Type}

/-- The new thing is decoded from the value. -/
def whole (decoder : Decoder α) : PatchRule α :=
  fun value _ new => decoder.ofValue value = .ok new

/-- The members of an object make the new thing of the old one; from any other value the new thing
is decoded. -/
def within (decoder : Decoder α) (follows : List (String × Json) → α → α → Prop) : PatchRule α
  | .object members, old, new => follows members old new
  | value, _, new => decoder.ofValue value = .ok new

/-- The rule says what is decoded when the value is laid over what is written for the old thing. -/
structure Lawful (rule : PatchRule α) (decoder : Decoder α) (encode : α → Json) : Prop where
  overlaid : ∀ {value : Json} {old new : α}, IsDistinct value →
    (decoder.ofValue (overlay (encode old).sorted value) = .ok new ↔ rule value old new)
  unchanged : ∀ old, decoder.ofValue (encode old).sorted = .ok old
  exists_iff : ∀ {value : Json} (old : α), IsDistinct value →
    ((∃ new, rule value old new) ↔ ∃ new, decoder.ofValue value = .ok new)

end PatchRule

theorem Decoder.Makes.ofValue_sorted {α : Type} {decoder : Decoder α} {depth : Nat} {value : Json}
    {thing : α} (makes : Makes decoder depth value thing) (distinct : IsDistinct value) :
    decoder.ofValue value.sorted = .ok thing := by
  have holds : Holds (overlay .null value.sorted) value := holds_overlay distinct (.other rfl)
  rw [overlay_null] at holds
  exact makes .value _ trivial holds

namespace PatchRule

variable {α : Type} {decoder : Decoder α} {encode : α → Json} {depth : Nat}

theorem lawful_whole (makes : ∀ old, Decoder.Makes decoder depth (encode old) old)
    (distinct : ∀ old, IsDistinct (encode old)) (flat : ∀ old, (encode old).isObject = false) :
    Lawful (whole decoder) decoder encode where
  overlaid {value old _} _ := by
    have flat : (encode old).sorted.isObject = false := (isObject_sorted _).trans (flat old)
    rw [overlay_of_isObject (.inl flat)]
    exact Iff.rfl
  unchanged old := (makes old).ofValue_sorted (distinct old)
  exists_iff _ _ := Iff.rfl

/-- A rule for a section is lawful when it is for objects. -/
theorem lawful_within {follows : List (String × Json) → α → α → Prop}
    (makes : ∀ old, Decoder.Makes decoder depth (encode old) old)
    (distinct : ∀ old, IsDistinct (encode old))
    (overlaid : ∀ {patch : List (String × Json)} {old new : α}, IsDistinct (.object patch) →
      (decoder.ofValue (overlay (encode old).sorted (.object patch)) = .ok new ↔
        follows patch old new))
    (exists_iff : ∀ {patch : List (String × Json)} (old : α), IsDistinct (.object patch) →
      ((∃ new, follows patch old new) ↔ ∃ new, decoder.ofValue (.object patch) = .ok new)) :
    Lawful (within decoder follows) decoder encode where
  overlaid {value _ _} given := by
    cases value with
    | object members => exact overlaid given
    | _ => exact Iff.rfl
  unchanged old := (makes old).ofValue_sorted (distinct old)
  exists_iff {value} old given := by
    cases value with
    | object members => exact exists_iff old given
    | _ => exact Iff.rfl

theorem lawful_string : Lawful (whole Decoder.string) Decoder.string .string :=
  lawful_whole (Decoder.makes_string 0) (fun _ => trivial) fun _ => rfl

theorem lawful_bool : Lawful (whole Decoder.bool) Decoder.bool .bool :=
  lawful_whole (Decoder.makes_bool 0) (fun _ => trivial) fun _ => rfl

theorem lawful_texts :
    Lawful (whole (Decoder.list Decoder.string)) (Decoder.list Decoder.string) .ofStrings :=
  lawful_whole (Decoder.makes_ofStrings 0) isDistinct_ofStrings fun _ => rfl

theorem lawful_theme : Lawful (whole Theme.decode) Theme.decode Theme.encode :=
  lawful_whole (Theme.makes_decode 0) (fun _ => trivial) fun _ => rfl

theorem lawful_uint64 (expected : String) :
    Lawful (whole (decodeUInt64 expected)) (decodeUInt64 expected) encodeUInt64 :=
  lawful_whole (makes_decodeUInt64 expected 0) (fun _ => trivial) fun _ => rfl

end PatchRule

section Takes

variable {α : Type} {rule : PatchRule α} {decoder : Decoder α} {encode : α → Json} {name : String}
  {patch : List (String × Json)} {old new default : α}

theorem takes_whole_iff :
    Takes (.whole decoder) name patch old new ↔
      Record.GivesOr .value patch name decoder old new := by
  unfold Takes Record.GivesOr
  cases lookup? name patch <;> exact Iff.rfl

theorem isDistinct_of_lookup? {members : List (String × Json)} {value : Json}
    (distinct : AreDistinctMembers members) (found : lookup? name members = some value) :
    IsDistinct value := by
  induction members with
  | nil => cases found
  | cons member rest ih =>
    rw [lookup?] at found
    split at found
    · cases found
      exact distinct.1
    · exact ih distinct.2 found

/-- What a field is decoded to when the patch is laid over the members of a record is said by its
rule. -/
theorem takes_overlaid_iff (lawful : rule.Lawful decoder encode)
    (distinct : IsDistinct (.object patch)) {members : List (String × Json)}
    (written : (keys members).Nodup) (look : lookup? name members = some (encode old)) :
    Takes (.whole decoder) name (overlayMembers (sortedMembers [] members) patch) default new ↔
      Takes rule name patch old new := by
  have look : lookup? name (sortedMembers [] members) = some (encode old).sorted := by
    rw [lookup?_sortedMembers written, look]
    rfl
  rw [Takes, Takes, lookup?_overlayMembers distinct.1, lookupOrNull, look]
  cases given : lookup? name patch with
  | none =>
    change decoder.ofValue (encode old).sorted = .ok new ↔ new = old
    rw [lawful.unchanged, Except.ok.injEq]
    exact eq_comm
  | some value => exact lawful.overlaid (isDistinct_of_lookup? distinct.2 given)

/-- The rule of a field gives some new thing when what the patch has there can be decoded. -/
theorem exists_takes_iff (lawful : rule.Lawful decoder encode)
    (distinct : IsDistinct (.object patch)) (old : α) :
    (∃ new, Takes rule name patch old new) ↔
      (Field.optional name decoder).Fits .value patch := by
  have checked (value : Json) : (Field.optional name decoder).check .value (ofJson value) = .ok () ↔
      ∃ new, decoder.ofValue value = .ok new := by
    change (decoder .value (ofJson value)).map (fun _ => ()) = .ok () ↔
      ∃ new, decoder .value (ofJson value) = .ok new
    cases decoder .value (ofJson value) <;> simp [Except.map]
  unfold Takes Field.Fits
  change _ ↔ ∀ value, lookup? name patch = some value → _
  cases given : lookup? name patch with
  | none =>
    constructor
    · intro _ value found
      cases found
    · exact fun _ => ⟨old, rfl⟩
  | some value =>
    rw [lawful.exists_iff old (isDistinct_of_lookup? distinct.2 given), ← checked]
    constructor
    · rintro fits _ ⟨⟩
      exact fits
    · exact fun fits => fits value rfl

theorem takes_congr {other : List (String × Json)}
    (same : lookup? name patch = lookup? name other) :
    Takes rule name patch old new ↔ Takes rule name other old new := by
  rw [Takes, Takes, same]

end Takes

theorem nodup_overlaid (members patch : List (String × Json)) :
    (keys (overlayMembers (sortedMembers [] members) patch)).Nodup :=
  ((ordered_nil.sortedMembers members).overlayMembers patch).nodup

/-- Both members have the same under the names of the fields. -/
def AgreeOn (fields : List Field) (first second : List (String × Json)) : Prop :=
  ∀ field ∈ fields, lookup? field.name first = lookup? field.name second

open PatchRule

/-! ## Sections of a layout -/

namespace CommonPaths

/-- The new paths come of the old ones by the patch. -/
def Follows (patch : List (String × Json)) (old new : CommonPaths) : Prop :=
  Takes (whole Decoder.string) "sapInstallPath" patch old.sapInstallPath new.sapInstallPath ∧
  Takes (whole Decoder.string) "logDirectory" patch old.logDirectory new.logDirectory ∧
  Takes (whole Decoder.string) "backupDirectory" patch old.backupDirectory new.backupDirectory ∧
  Takes (whole Decoder.string) "tempDirectory" patch old.temporaryDirectory new.temporaryDirectory

variable {patch : List (String × Json)} {old new : CommonPaths}

theorem isDistinct_encode (paths : CommonPaths) : IsDistinct paths.encode :=
  ⟨by simp [keys], trivial, trivial, trivial, trivial, trivial⟩

theorem ofValue_object_iff (distinct : (keys patch).Nodup) :
    decode.ofValue (.object patch) = .ok new ↔ Follows patch {} new := by
  simp only [Follows, takes_whole_iff]
  refine Record.read_bind_eq_ok_iff rfl (by simp [fields, Field.optional]) distinct
    (by simp [fields, Field.optional]) ?_ ?_ _
  · rintro ⟨install, logs, backup, temporary⟩
    simp only [fields, List.forall_mem_cons]
    exact ⟨install.fits, logs.fits, backup.fits, temporary.fits, List.forall_mem_nil _⟩
  · simp only [fields, List.forall_mem_cons]
    rintro values ⟨look₁, look₂, look₃, look₄, _⟩
    constructor
    · intro built
      simp only [bind_eq_ok_iff] at built
      obtain ⟨_, install, _, logs, _, backup, _, temporary, same⟩ := built
      cases same
      exact ⟨(Record.get_eq_ok_iff look₁).1 install, (Record.get_eq_ok_iff look₂).1 logs,
        (Record.get_eq_ok_iff look₃).1 backup, (Record.get_eq_ok_iff look₄).1 temporary⟩
    · rintro ⟨install, logs, backup, temporary⟩
      simp only [install.get look₁, logs.get look₂, backup.get look₃, temporary.get look₄, bind,
        Except.bind]
      rfl

theorem overlaid_iff (distinct : IsDistinct (.object patch)) :
    decode.ofValue (overlay old.encode.sorted (.object patch)) = .ok new ↔
      Follows patch old new := by
  have written := (isDistinct_encode old).1
  simp only [encode, sorted, overlay]
  rw [ofValue_object_iff (nodup_overlaid _ _)]
  exact and_congr (takes_overlaid_iff lawful_string distinct written rfl)
    (and_congr (takes_overlaid_iff lawful_string distinct written rfl)
      (and_congr (takes_overlaid_iff lawful_string distinct written rfl)
        (takes_overlaid_iff lawful_string distinct written rfl)))

theorem exists_follows_iff (distinct : IsDistinct (.object patch)) (old : CommonPaths) :
    (∃ new, Follows patch old new) ↔ ∀ field ∈ fields, field.Fits .value patch := by
  simp only [fields, List.forall_mem_cons]
  constructor
  · rintro ⟨_, install, logs, backup, temporary⟩
    exact ⟨(exists_takes_iff lawful_string distinct _).1 ⟨_, install⟩,
      (exists_takes_iff lawful_string distinct _).1 ⟨_, logs⟩,
      (exists_takes_iff lawful_string distinct _).1 ⟨_, backup⟩,
      (exists_takes_iff lawful_string distinct _).1 ⟨_, temporary⟩, List.forall_mem_nil _⟩
  · rintro ⟨install, logs, backup, temporary, _⟩
    obtain ⟨_, install⟩ := (exists_takes_iff lawful_string distinct old.sapInstallPath).2 install
    obtain ⟨_, logs⟩ := (exists_takes_iff lawful_string distinct old.logDirectory).2 logs
    obtain ⟨_, backup⟩ := (exists_takes_iff lawful_string distinct old.backupDirectory).2 backup
    obtain ⟨_, temporary⟩ :=
      (exists_takes_iff lawful_string distinct old.temporaryDirectory).2 temporary
    exact ⟨⟨_, _, _, _⟩, install, logs, backup, temporary⟩

theorem lawful_within : Lawful (within decode Follows) decode encode := by
  refine PatchRule.lawful_within makes_decode isDistinct_encode overlaid_iff fun old distinct => ?_
  simp only [ofValue_object_iff distinct.1, exists_follows_iff distinct]

theorem follows_congr {other : List (String × Json)} (agree : AgreeOn fields patch other) :
    Follows patch old new ↔ Follows other old new := by
  simp only [AgreeOn, fields, List.forall_mem_cons] at agree
  obtain ⟨install, logs, backup, temporary, _⟩ := agree
  exact and_congr (takes_congr install) (and_congr (takes_congr logs)
    (and_congr (takes_congr backup) (takes_congr temporary)))

end CommonPaths

namespace NetworkSettings

/-- The new settings come of the old ones by the patch. -/
def Follows (patch : List (String × Json)) (old new : NetworkSettings) : Prop :=
  Takes (whole Decoder.string) "defaultTestHost" patch old.defaultTestHost new.defaultTestHost ∧
  Takes (whole (decodeUInt64 "u64")) "timeoutSeconds" patch old.timeoutSeconds new.timeoutSeconds

variable {patch : List (String × Json)} {old new : NetworkSettings}

theorem isDistinct_encode (settings : NetworkSettings) : IsDistinct settings.encode :=
  ⟨by simp [keys], trivial, trivial, trivial⟩

theorem ofValue_object_iff (distinct : (keys patch).Nodup) :
    decode.ofValue (.object patch) = .ok new ↔ Follows patch {} new := by
  simp only [Follows, takes_whole_iff]
  refine Record.read_bind_eq_ok_iff rfl (by simp [fields, Field.optional]) distinct
    (by simp [fields, Field.optional]) ?_ ?_ _
  · rintro ⟨host, timeout⟩
    simp only [fields, List.forall_mem_cons]
    exact ⟨host.fits, timeout.fits, List.forall_mem_nil _⟩
  · simp only [fields, List.forall_mem_cons]
    rintro values ⟨look₁, look₂, _⟩
    constructor
    · intro built
      simp only [bind_eq_ok_iff] at built
      obtain ⟨_, host, _, timeout, same⟩ := built
      cases same
      exact ⟨(Record.get_eq_ok_iff look₁).1 host, (Record.get_eq_ok_iff look₂).1 timeout⟩
    · rintro ⟨host, timeout⟩
      simp only [host.get look₁, timeout.get look₂, bind, Except.bind]
      rfl

theorem overlaid_iff (distinct : IsDistinct (.object patch)) :
    decode.ofValue (overlay old.encode.sorted (.object patch)) = .ok new ↔
      Follows patch old new := by
  have written := (isDistinct_encode old).1
  simp only [encode, sorted, overlay]
  rw [ofValue_object_iff (nodup_overlaid _ _)]
  exact and_congr (takes_overlaid_iff lawful_string distinct written rfl)
    (takes_overlaid_iff (lawful_uint64 "u64") distinct written rfl)

theorem exists_follows_iff (distinct : IsDistinct (.object patch)) (old : NetworkSettings) :
    (∃ new, Follows patch old new) ↔ ∀ field ∈ fields, field.Fits .value patch := by
  simp only [fields, List.forall_mem_cons]
  constructor
  · rintro ⟨_, host, timeout⟩
    exact ⟨(exists_takes_iff lawful_string distinct _).1 ⟨_, host⟩,
      (exists_takes_iff (lawful_uint64 "u64") distinct _).1 ⟨_, timeout⟩, List.forall_mem_nil _⟩
  · rintro ⟨host, timeout, _⟩
    obtain ⟨_, host⟩ := (exists_takes_iff lawful_string distinct old.defaultTestHost).2 host
    obtain ⟨_, timeout⟩ :=
      (exists_takes_iff (lawful_uint64 "u64") distinct old.timeoutSeconds).2 timeout
    exact ⟨⟨_, _⟩, host, timeout⟩

theorem lawful_within : Lawful (within decode Follows) decode encode := by
  refine PatchRule.lawful_within makes_decode isDistinct_encode overlaid_iff fun old distinct => ?_
  simp only [ofValue_object_iff distinct.1, exists_follows_iff distinct]

theorem follows_congr {other : List (String × Json)} (agree : AgreeOn fields patch other) :
    Follows patch old new ↔ Follows other old new := by
  simp only [AgreeOn, fields, List.forall_mem_cons] at agree
  obtain ⟨host, timeout, _⟩ := agree
  exact and_congr (takes_congr host) (takes_congr timeout)

end NetworkSettings

namespace SecuritySettings

/-- The new settings come of the old ones by the patch. -/
def Follows (patch : List (String × Json)) (old new : SecuritySettings) : Prop :=
  Takes (whole Decoder.bool) "allowDangerousCommands" patch old.allowDangerousCommands
    new.allowDangerousCommands ∧
  Takes (whole Decoder.bool) "requireConfirmation" patch old.requireConfirmation
    new.requireConfirmation

variable {patch : List (String × Json)} {old new : SecuritySettings}

theorem isDistinct_encode (settings : SecuritySettings) : IsDistinct settings.encode :=
  ⟨by simp [keys], trivial, trivial, trivial⟩

theorem ofValue_object_iff (distinct : (keys patch).Nodup) :
    decode.ofValue (.object patch) = .ok new ↔ Follows patch {} new := by
  simp only [Follows, takes_whole_iff]
  refine Record.read_bind_eq_ok_iff rfl (by simp [fields, Field.optional]) distinct
    (by simp [fields, Field.optional]) ?_ ?_ _
  · rintro ⟨danger, confirmation⟩
    simp only [fields, List.forall_mem_cons]
    exact ⟨danger.fits, confirmation.fits, List.forall_mem_nil _⟩
  · simp only [fields, List.forall_mem_cons]
    rintro values ⟨look₁, look₂, _⟩
    constructor
    · intro built
      simp only [bind_eq_ok_iff] at built
      obtain ⟨_, danger, _, confirmation, same⟩ := built
      cases same
      exact ⟨(Record.get_eq_ok_iff look₁).1 danger, (Record.get_eq_ok_iff look₂).1 confirmation⟩
    · rintro ⟨danger, confirmation⟩
      simp only [danger.get look₁, confirmation.get look₂, bind, Except.bind]
      rfl

theorem overlaid_iff (distinct : IsDistinct (.object patch)) :
    decode.ofValue (overlay old.encode.sorted (.object patch)) = .ok new ↔
      Follows patch old new := by
  have written := (isDistinct_encode old).1
  simp only [encode, sorted, overlay]
  rw [ofValue_object_iff (nodup_overlaid _ _)]
  exact and_congr (takes_overlaid_iff lawful_bool distinct written rfl)
    (takes_overlaid_iff lawful_bool distinct written rfl)

theorem exists_follows_iff (distinct : IsDistinct (.object patch)) (old : SecuritySettings) :
    (∃ new, Follows patch old new) ↔ ∀ field ∈ fields, field.Fits .value patch := by
  simp only [fields, List.forall_mem_cons]
  constructor
  · rintro ⟨_, danger, confirmation⟩
    exact ⟨(exists_takes_iff lawful_bool distinct _).1 ⟨_, danger⟩,
      (exists_takes_iff lawful_bool distinct _).1 ⟨_, confirmation⟩, List.forall_mem_nil _⟩
  · rintro ⟨danger, confirmation, _⟩
    obtain ⟨_, danger⟩ :=
      (exists_takes_iff lawful_bool distinct old.allowDangerousCommands).2 danger
    obtain ⟨_, confirmation⟩ :=
      (exists_takes_iff lawful_bool distinct old.requireConfirmation).2 confirmation
    exact ⟨⟨_, _⟩, danger, confirmation⟩

theorem lawful_within : Lawful (within decode Follows) decode encode := by
  refine PatchRule.lawful_within makes_decode isDistinct_encode overlaid_iff fun old distinct => ?_
  simp only [ofValue_object_iff distinct.1, exists_follows_iff distinct]

theorem follows_congr {other : List (String × Json)} (agree : AgreeOn fields patch other) :
    Follows patch old new ↔ Follows other old new := by
  simp only [AgreeOn, fields, List.forall_mem_cons] at agree
  obtain ⟨danger, confirmation, _⟩ := agree
  exact and_congr (takes_congr danger) (takes_congr confirmation)

end SecuritySettings

/-! ## Documents -/

namespace Preferences

/-- The new preferences come of the old ones by the patch. -/
def Follows (patch : List (String × Json)) (old new : Preferences) : Prop :=
  Takes (whole Decoder.string) "defaultSID" patch old.defaultSid new.defaultSid ∧
  Takes (whole Decoder.string) "defaultInstanceNumber" patch old.defaultInstanceNumber
    new.defaultInstanceNumber ∧
  Takes (whole (Decoder.list Decoder.string)) "favoriteUtilities" patch old.favorites
    new.favorites ∧
  Takes (whole Theme.decode) "theme" patch old.theme new.theme ∧
  Takes (whole (decodeUInt64 "usize")) "commandHistoryLimit" patch old.historyLimit
    new.historyLimit ∧
  Takes (whole Decoder.bool) "showDangerWarnings" patch old.showDangerWarnings
    new.showDangerWarnings ∧
  Takes (whole Decoder.bool) "autoSaveHistory" patch old.autoSaveHistory new.autoSaveHistory

variable {patch : List (String × Json)} {old new : Preferences}

theorem ofValue_object_iff (distinct : (keys patch).Nodup) :
    decode.ofValue (.object patch) = .ok new ↔ Follows patch {} new := by
  simp only [Follows, takes_whole_iff]
  refine Record.read_bind_eq_ok_iff rfl (by simp [fields, Field.optional]) distinct
    (by simp [fields, Field.optional]) ?_ ?_ _
  · rintro ⟨sid, number, favorites, theme, limit, warnings, saving⟩
    simp only [fields, List.forall_mem_cons]
    exact ⟨sid.fits, number.fits, favorites.fits, theme.fits, limit.fits, warnings.fits,
      saving.fits, List.forall_mem_nil _⟩
  · simp only [fields, List.forall_mem_cons]
    rintro values ⟨look₁, look₂, look₃, look₄, look₅, look₆, look₇, _⟩
    constructor
    · intro built
      simp only [bind_eq_ok_iff] at built
      obtain ⟨_, sid, _, number, _, favorites, _, theme, _, limit, _, warnings, _, saving, same⟩ :=
        built
      cases same
      exact ⟨(Record.get_eq_ok_iff look₁).1 sid, (Record.get_eq_ok_iff look₂).1 number,
        (Record.get_eq_ok_iff look₃).1 favorites, (Record.get_eq_ok_iff look₄).1 theme,
        (Record.get_eq_ok_iff look₅).1 limit, (Record.get_eq_ok_iff look₆).1 warnings,
        (Record.get_eq_ok_iff look₇).1 saving⟩
    · rintro ⟨sid, number, favorites, theme, limit, warnings, saving⟩
      simp only [sid.get look₁, number.get look₂, favorites.get look₃, theme.get look₄,
        limit.get look₅, warnings.get look₆, saving.get look₇, bind, Except.bind]
      rfl

theorem overlaid_iff (distinct : IsDistinct (.object patch)) :
    decode.ofValue (overlay old.encode.sorted (.object patch)) = .ok new ↔
      Follows patch old new := by
  have written := (isDistinct_encode old).1
  simp only [encode, sorted, overlay]
  rw [ofValue_object_iff (nodup_overlaid _ _)]
  exact and_congr (takes_overlaid_iff lawful_string distinct written rfl)
    (and_congr (takes_overlaid_iff lawful_string distinct written rfl)
      (and_congr (takes_overlaid_iff lawful_texts distinct written rfl)
        (and_congr (takes_overlaid_iff lawful_theme distinct written rfl)
          (and_congr (takes_overlaid_iff (lawful_uint64 "usize") distinct written rfl)
            (and_congr (takes_overlaid_iff lawful_bool distinct written rfl)
              (takes_overlaid_iff lawful_bool distinct written rfl))))))

theorem exists_follows_iff (distinct : IsDistinct (.object patch)) (old : Preferences) :
    (∃ new, Follows patch old new) ↔ ∀ field ∈ fields, field.Fits .value patch := by
  simp only [fields, List.forall_mem_cons]
  constructor
  · rintro ⟨_, sid, number, favorites, theme, limit, warnings, saving⟩
    exact ⟨(exists_takes_iff lawful_string distinct _).1 ⟨_, sid⟩,
      (exists_takes_iff lawful_string distinct _).1 ⟨_, number⟩,
      (exists_takes_iff lawful_texts distinct _).1 ⟨_, favorites⟩,
      (exists_takes_iff lawful_theme distinct _).1 ⟨_, theme⟩,
      (exists_takes_iff (lawful_uint64 "usize") distinct _).1 ⟨_, limit⟩,
      (exists_takes_iff lawful_bool distinct _).1 ⟨_, warnings⟩,
      (exists_takes_iff lawful_bool distinct _).1 ⟨_, saving⟩, List.forall_mem_nil _⟩
  · rintro ⟨sid, number, favorites, theme, limit, warnings, saving, _⟩
    obtain ⟨_, sid⟩ := (exists_takes_iff lawful_string distinct old.defaultSid).2 sid
    obtain ⟨_, number⟩ :=
      (exists_takes_iff lawful_string distinct old.defaultInstanceNumber).2 number
    obtain ⟨_, favorites⟩ := (exists_takes_iff lawful_texts distinct old.favorites).2 favorites
    obtain ⟨_, theme⟩ := (exists_takes_iff lawful_theme distinct old.theme).2 theme
    obtain ⟨_, limit⟩ :=
      (exists_takes_iff (lawful_uint64 "usize") distinct old.historyLimit).2 limit
    obtain ⟨_, warnings⟩ :=
      (exists_takes_iff lawful_bool distinct old.showDangerWarnings).2 warnings
    obtain ⟨_, saving⟩ := (exists_takes_iff lawful_bool distinct old.autoSaveHistory).2 saving
    exact ⟨⟨_, _, _, _, _, _, _⟩, sid, number, favorites, theme, limit, warnings, saving⟩

theorem follows_congr {other : List (String × Json)} (agree : AgreeOn fields patch other) :
    Follows patch old new ↔ Follows other old new := by
  simp only [AgreeOn, fields, List.forall_mem_cons] at agree
  obtain ⟨sid, number, favorites, theme, limit, warnings, saving, _⟩ := agree
  exact and_congr (takes_congr sid) (and_congr (takes_congr number)
    (and_congr (takes_congr favorites) (and_congr (takes_congr theme)
      (and_congr (takes_congr limit) (and_congr (takes_congr warnings) (takes_congr saving))))))

end Preferences

/-- Both patches give the same for a section, but for members of an object that are no fields. -/
def AgreeWithin (fields : List Field) : Option Json → Option Json → Prop
  | some (.object first), some (.object second) => AgreeOn fields first second
  | first, second => first = second

/-- The members of a section that are no fields make no difference. -/
theorem takes_within_congr {α : Type} {fields : List Field} {decoder : Decoder α}
    {follows : List (String × Json) → α → α → Prop} {name : String}
    {patch other : List (String × Json)} {old new : α}
    (congr : ∀ {first second}, AgreeOn fields first second →
      (follows first old new ↔ follows second old new))
    (agree : AgreeWithin fields (lookup? name patch) (lookup? name other)) :
    Takes (within decoder follows) name patch old new ↔
      Takes (within decoder follows) name other old new := by
  unfold Takes
  revert agree
  generalize lookup? name patch = first
  generalize lookup? name other = second
  intro agree
  unfold AgreeWithin at agree
  split at agree
  · exact congr agree
  · rw [agree]

namespace SystemConfig

/-- The new layout comes of the old one by the patch. -/
def Follows (patch : List (String × Json)) (old new : SystemConfig) : Prop :=
  Takes (within CommonPaths.decode CommonPaths.Follows) "commonPaths" patch old.commonPaths
    new.commonPaths ∧
  Takes (within NetworkSettings.decode NetworkSettings.Follows) "networkSettings" patch
    old.networkSettings new.networkSettings ∧
  Takes (within SecuritySettings.decode SecuritySettings.Follows) "securitySettings" patch
    old.securitySettings new.securitySettings

/-- The patches differ only in members that are no fields. -/
def Agree (first second : List (String × Json)) : Prop :=
  AgreeWithin CommonPaths.fields (lookup? "commonPaths" first) (lookup? "commonPaths" second) ∧
  AgreeWithin NetworkSettings.fields (lookup? "networkSettings" first)
    (lookup? "networkSettings" second) ∧
  AgreeWithin SecuritySettings.fields (lookup? "securitySettings" first)
    (lookup? "securitySettings" second)

variable {patch : List (String × Json)} {old new : SystemConfig}

theorem ofValue_object_iff (distinct : (keys patch).Nodup) :
    decode.ofValue (.object patch) = .ok new ↔
      Takes (whole CommonPaths.decode) "commonPaths" patch {} new.commonPaths ∧
      Takes (whole NetworkSettings.decode) "networkSettings" patch {} new.networkSettings ∧
      Takes (whole SecuritySettings.decode) "securitySettings" patch {} new.securitySettings := by
  simp only [takes_whole_iff]
  refine Record.read_bind_eq_ok_iff rfl (by simp [fields, Field.optional]) distinct
    (by simp [fields, Field.optional]) ?_ ?_ _
  · rintro ⟨paths, network, security⟩
    simp only [fields, List.forall_mem_cons]
    exact ⟨paths.fits, network.fits, security.fits, List.forall_mem_nil _⟩
  · simp only [fields, List.forall_mem_cons]
    rintro values ⟨look₁, look₂, look₃, _⟩
    constructor
    · intro built
      simp only [bind_eq_ok_iff] at built
      obtain ⟨_, paths, _, network, _, security, same⟩ := built
      cases same
      exact ⟨(Record.get_eq_ok_iff look₁).1 paths, (Record.get_eq_ok_iff look₂).1 network,
        (Record.get_eq_ok_iff look₃).1 security⟩
    · rintro ⟨paths, network, security⟩
      simp only [paths.get look₁, network.get look₂, security.get look₃, bind, Except.bind]
      rfl

theorem overlaid_iff (distinct : IsDistinct (.object patch)) :
    decode.ofValue (overlay old.encode.sorted (.object patch)) = .ok new ↔
      Follows patch old new := by
  have written := (isDistinct_encode old).1
  simp only [encode, sorted, overlay]
  rw [ofValue_object_iff (nodup_overlaid _ _)]
  exact and_congr (takes_overlaid_iff CommonPaths.lawful_within distinct written rfl)
    (and_congr (takes_overlaid_iff NetworkSettings.lawful_within distinct written rfl)
      (takes_overlaid_iff SecuritySettings.lawful_within distinct written rfl))

theorem exists_follows_iff (distinct : IsDistinct (.object patch)) (old : SystemConfig) :
    (∃ new, Follows patch old new) ↔ ∀ field ∈ fields, field.Fits .value patch := by
  simp only [fields, List.forall_mem_cons]
  constructor
  · rintro ⟨_, paths, network, security⟩
    exact ⟨(exists_takes_iff CommonPaths.lawful_within distinct _).1 ⟨_, paths⟩,
      (exists_takes_iff NetworkSettings.lawful_within distinct _).1 ⟨_, network⟩,
      (exists_takes_iff SecuritySettings.lawful_within distinct _).1 ⟨_, security⟩,
      List.forall_mem_nil _⟩
  · rintro ⟨paths, network, security, _⟩
    obtain ⟨_, paths⟩ :=
      (exists_takes_iff CommonPaths.lawful_within distinct old.commonPaths).2 paths
    obtain ⟨_, network⟩ :=
      (exists_takes_iff NetworkSettings.lawful_within distinct old.networkSettings).2 network
    obtain ⟨_, security⟩ :=
      (exists_takes_iff SecuritySettings.lawful_within distinct old.securitySettings).2 security
    exact ⟨⟨_, _, _⟩, paths, network, security⟩

theorem follows_congr {other : List (String × Json)} (agree : Agree patch other) :
    Follows patch old new ↔ Follows other old new :=
  and_congr (takes_within_congr CommonPaths.follows_congr agree.1)
    (and_congr (takes_within_congr NetworkSettings.follows_congr agree.2.1)
      (takes_within_congr SecuritySettings.follows_congr agree.2.2))

end SystemConfig

end CommandSynthesis
