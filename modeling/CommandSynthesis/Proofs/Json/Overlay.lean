import CommandSynthesis.Proofs.Json.Holding

set_option autoImplicit false

/-!
# Laws of the overlay

What stands at the end of a path of keys when a patch is laid over a base. At every path either the
patch or the base decides, and the overlay is the only value with its members in order for which
they decide so. So a patch laid over the same base twice does what it does once, and a value laid
over itself is that value. Members are taken in order, as reading and sorting leave them.
-/

namespace CommandSynthesis.Json

/-- The value that the keys lead to, each taken in the object that the keys before it lead to. -/
def valueAt? : List String → Json → Option Json
  | [], value => some value
  | key :: rest, value => (value.get? key).bind (valueAt? rest)

def HasObjectAt (path : List String) (value : Json) : Prop :=
  ∃ members, value.valueAt? path = some (.object members)

/-- The whole has at every path what the patch, laid over the base, puts there. -/
structure IsLaidOver (base patch whole : Json) : Prop where
  /-- A value of the patch that is no object stands in the whole. -/
  given : ∀ path value, patch.valueAt? path = some value → value.isObject = false →
    whole.valueAt? path = some value
  /-- Where an object of the patch lies over one of the base and lacks a key, the whole has under
  that key, and at all paths beyond it, what the base has. -/
  kept : ∀ front key rest, base.HasObjectAt front → patch.HasObjectAt front →
    patch.valueAt? (front ++ [key]) = none →
      whole.valueAt? (front ++ key :: rest) = base.valueAt? (front ++ key :: rest)
  /-- An object of the patch that lies over no object stands in the whole as it is. -/
  fresh : ∀ path, patch.HasObjectAt path → ¬ base.HasObjectAt path →
    whole.valueAt? path = patch.valueAt? path
  /-- An object over an object is an object. -/
  joined : ∀ path, base.HasObjectAt path → patch.HasObjectAt path → whole.HasObjectAt path

/-! ## Paths -/

theorem valueAt?_append (front rest : List String) (value : Json) :
    value.valueAt? (front ++ rest) = (value.valueAt? front).bind (valueAt? rest) := by
  induction front generalizing value with
  | nil => rfl
  | cons key front ih =>
    rw [List.cons_append, valueAt?, valueAt?, Option.bind_assoc]
    exact congrArg _ (funext ih)

theorem valueAt?_singleton (key : String) (value : Json) : value.valueAt? [key] = value.get? key :=
  Option.bind_fun_some (value.get? key)

theorem valueAt?_of_lookup? {key : String} {members : List (String × Json)} {value : Json}
    (found : lookup? key members = some value) (rest : List String) :
    (Json.object members).valueAt? (key :: rest) = value.valueAt? rest := by
  change (lookup? key members).bind (valueAt? rest) = value.valueAt? rest
  rw [found, Option.bind_some]

theorem valueAt?_of_lookup?_eq_none {key : String} {members : List (String × Json)}
    (missing : lookup? key members = none) (rest : List String) :
    (Json.object members).valueAt? (key :: rest) = none := by
  change (lookup? key members).bind (valueAt? rest) = none
  rw [missing, Option.bind_none]

/-- A path that does not end at once leads on from an object. -/
theorem exists_of_valueAt?_cons {key : String} {rest : List String} {whole value : Json}
    (found : whole.valueAt? (key :: rest) = some value) :
    ∃ members inner, whole = .object members ∧ lookup? key members = some inner ∧
      inner.valueAt? rest = some value := by
  obtain ⟨inner, present, inside⟩ := Option.bind_eq_some_iff.1 found
  cases whole with
  | object members => exact ⟨members, inner, rfl, present, inside⟩
  | _ => cases present

theorem valueAt?_cons_of_isObject {value : Json} (flat : value.isObject = false) (key : String)
    (rest : List String) : value.valueAt? (key :: rest) = none := by
  cases value with
  | object members => cases flat
  | _ => rfl

theorem getD_valueAt?_null (path : List String) : (Json.null.valueAt? path).getD .null = .null := by
  cases path <;> rfl

/-- A key that is missing may be taken to stand for null. -/
theorem getD_valueAt?_cons (key : String) (members : List (String × Json)) (rest : List String) :
    ((Json.object members).valueAt? (key :: rest)).getD .null =
      ((lookupOrNull key members).valueAt? rest).getD .null := by
  rw [lookupOrNull]
  cases found : lookup? key members with
  | none =>
    rw [valueAt?_of_lookup?_eq_none found]
    exact (getD_valueAt?_null rest).symm
  | some value => rw [valueAt?_of_lookup? found, Option.getD_some]

theorem not_hasObjectAt_null (path : List String) : ¬ Json.null.HasObjectAt path := by
  rintro ⟨members, found⟩
  cases path <;> cases found

theorem lookup?_of_hasObjectAt {key : String} {members : List (String × Json)} {path : List String}
    (object : (lookupOrNull key members).HasObjectAt path) :
    lookup? key members = some (lookupOrNull key members) := by
  rw [lookupOrNull] at object ⊢
  cases found : lookup? key members with
  | none =>
    rw [found] at object
    exact absurd object (not_hasObjectAt_null path)
  | some value => rfl

theorem hasObjectAt_cons_iff {key : String} {members : List (String × Json)} {path : List String} :
    (Json.object members).HasObjectAt (key :: path) ↔ (lookupOrNull key members).HasObjectAt path := by
  constructor
  · rintro ⟨inside, found⟩
    obtain ⟨_, inner, ⟨⟩, present, found⟩ := exists_of_valueAt?_cons found
    rw [lookupOrNull, present]
    exact ⟨inside, found⟩
  · intro object
    have leads := valueAt?_of_lookup? (lookup?_of_hasObjectAt object) path
    obtain ⟨inside, found⟩ := object
    exact ⟨inside, leads.trans found⟩

theorem isObject_getD_valueAt? {value : Json} {path : List String}
    (absent : ¬ value.HasObjectAt path) : ((value.valueAt? path).getD .null).isObject = false := by
  cases found : value.valueAt? path with
  | none => rfl
  | some inner =>
    cases inner with
    | object members => exact absurd ⟨members, found⟩ absent
    | _ => rfl

/-! ## Order -/

theorem IsOrdered.of_lookup? {members : List (String × Json)} (ordered : IsOrdered (.object members))
    {key : String} {value : Json} (found : lookup? key members = some value) : IsOrdered value := by
  cases ordered with
  | other impossible => cases impossible
  | object _ inner => exact inner key value found

theorem IsOrdered.of_valueAt? {path : List String} {whole value : Json} (ordered : IsOrdered whole)
    (found : whole.valueAt? path = some value) : IsOrdered value := by
  induction path generalizing whole with
  | nil =>
    cases found
    exact ordered
  | cons key rest ih =>
    obtain ⟨members, inner, rfl, present, inside⟩ := exists_of_valueAt?_cons found
    exact ih (ordered.of_lookup? present) inside

theorem IsOrdered.overlay {base patch : Json} (below : IsOrdered base) (above : IsOrdered patch) :
    IsOrdered (overlay base patch) := by
  induction above generalizing base with
  | @other patch flat =>
    rw [overlay_of_isObject (.inr flat)]
    exact .other flat
  | @object patch ordered inner ih =>
    rcases base.isObject_eq_false_or_exists with flat | ⟨members, rfl⟩
    · rw [overlay_object flat]
      exact .object ordered inner
    · refine .object (below.members.overlayMembers patch) fun key value found => ?_
      rw [lookup?_overlayMembers ordered.nodup] at found
      cases present : lookup? key patch with
      | none =>
        rw [present] at found
        exact below.of_lookup? found
      | some above =>
        rw [present] at found
        cases found
        exact ih key above present (below.lookupOrNull key)

/-! ## Every overlay is laid over so -/

/-- At a path of the patch stands what the patch has there, laid over what the base has there. -/
theorem valueAt?_overlay {patch value : Json} (ordered : IsOrdered patch) {path : List String}
    (found : patch.valueAt? path = some value) (base : Json) :
    (overlay base patch).valueAt? path = some (overlay ((base.valueAt? path).getD .null) value) := by
  induction path generalizing base patch with
  | nil =>
    cases found
    rfl
  | cons key rest ih =>
    obtain ⟨members, inner, rfl, present, inside⟩ := exists_of_valueAt?_cons found
    rcases base.isObject_eq_false_or_exists with flat | ⟨bottom, rfl⟩
    · rw [overlay_object flat, found, valueAt?_cons_of_isObject flat, Option.getD_none, overlay_null]
    · have joined : lookup? key (overlayMembers bottom members) =
          some (overlay (lookupOrNull key bottom) inner) := by
        rw [lookup?_overlayMembers ordered.members.nodup, present]
      rw [overlay, valueAt?_of_lookup? joined, getD_valueAt?_cons]
      exact ih (ordered.of_lookup? present) inside (lookupOrNull key bottom)

theorem isLaidOver_overlay (base : Json) {patch : Json} (ordered : IsOrdered patch) :
    IsLaidOver base patch (overlay base patch) where
  given path value found flat := by
    rw [valueAt?_overlay ordered found, overlay_of_isObject (.inr flat)]
  kept front key rest below above lacking := by
    obtain ⟨bottom, below⟩ := below
    obtain ⟨members, above⟩ := above
    have distinct : (keys members).Nodup := (ordered.of_valueAt? above).members.nodup
    rw [valueAt?_append, above, Option.bind_some, valueAt?_singleton] at lacking
    have kept : lookup? key (overlayMembers bottom members) = lookup? key bottom := by
      rw [lookup?_overlayMembers distinct, show lookup? key members = none from lacking]
    rw [valueAt?_append, valueAt?_append, valueAt?_overlay ordered above, below]
    exact congrArg (·.bind (valueAt? rest)) kept
  fresh path above absent := by
    obtain ⟨members, above⟩ := above
    rw [valueAt?_overlay ordered above, above, overlay_object (isObject_getD_valueAt? absent)]
  joined path below above := by
    obtain ⟨bottom, below⟩ := below
    obtain ⟨members, above⟩ := above
    exact ⟨overlayMembers bottom members, by rw [valueAt?_overlay ordered above, below]; rfl⟩

/-! ## Nothing else is laid over so -/

namespace IsLaidOver

variable {base patch whole : Json} {bottom members others : List (String × Json)} {key : String}
  {value inner : Json}

/-- A key of the patch is one of the whole. -/
theorem exists_lookup? (laid : IsLaidOver (.object bottom) (.object members) (.object others))
    (present : lookup? key members = some value) : ∃ inner, lookup? key others = some inner := by
  have above : (Json.object members).valueAt? [key] = some value := valueAt?_of_lookup? present []
  have placed : ∃ inner, (Json.object others).valueAt? [key] = some inner := by
    rcases value.isObject_eq_false_or_exists with flat | ⟨top, rfl⟩
    · exact ⟨value, laid.given [key] value above flat⟩
    · by_cases below : (Json.object bottom).HasObjectAt [key]
      · obtain ⟨joined, found⟩ := laid.joined [key] below ⟨top, above⟩
        exact ⟨.object joined, found⟩
      · exact ⟨.object top, (laid.fresh [key] ⟨top, above⟩ below).trans above⟩
  obtain ⟨inner, found⟩ := placed
  exact ⟨inner, (valueAt?_singleton key _).symm.trans found⟩

/-- Under each key of the patch its value is laid over that of the base, null where there is
none. -/
theorem under_key (laid : IsLaidOver (.object bottom) (.object members) (.object others))
    (present : lookup? key members = some value) (placed : lookup? key others = some inner) :
    IsLaidOver (lookupOrNull key bottom) value inner := by
  obtain rfl : lookupOrNull key members = value := by
    rw [lookupOrNull, present, Option.getD_some]
  have above := valueAt?_of_lookup? present
  have result := valueAt?_of_lookup? placed
  constructor
  case given =>
    intro path leaf found flat
    rw [← result]
    exact laid.given (key :: path) leaf ((above path).trans found) flat
  case kept =>
    intro front next rest below object lacking
    have beneath := valueAt?_of_lookup? (lookup?_of_hasObjectAt below) (front ++ next :: rest)
    rw [← result, ← beneath]
    exact laid.kept (key :: front) next rest (hasObjectAt_cons_iff.2 below)
      (hasObjectAt_cons_iff.2 object) ((above _).trans lacking)
  case fresh =>
    intro path object absent
    rw [← result, ← above]
    exact laid.fresh (key :: path) (hasObjectAt_cons_iff.2 object) fun below =>
      absent (hasObjectAt_cons_iff.1 below)
  case joined =>
    intro path below object
    obtain ⟨inside, found⟩ := laid.joined (key :: path) (hasObjectAt_cons_iff.2 below)
      (hasObjectAt_cons_iff.2 object)
    exact ⟨inside, (result path).symm.trans found⟩

/-- The base and the patch leave no choice. -/
theorem eq_overlay (above : IsOrdered patch) (below : IsOrdered base) (ordered : IsOrdered whole)
    (laid : IsLaidOver base patch whole) : whole = overlay base patch := by
  -- The empty path decides unless both are objects; then so does each key, by induction.
  induction above generalizing base whole with
  | @other patch flat =>
    rw [overlay_of_isObject (.inr flat)]
    exact Option.some.inj (laid.given [] patch rfl flat)
  | @object members inOrder _ ih =>
    rcases base.isObject_eq_false_or_exists with flat | ⟨bottom, rfl⟩
    · have absent : ¬ base.HasObjectAt [] := by
        rintro ⟨bottom, ⟨⟩⟩
        cases flat
      rw [overlay_object flat]
      exact Option.some.inj (laid.fresh [] ⟨members, rfl⟩ absent)
    · obtain ⟨others, ⟨⟩⟩ := laid.joined [] ⟨bottom, rfl⟩ ⟨members, rfl⟩
      refine congrArg Json.object (ordered.members.ext (below.members.overlayMembers members) ?_)
      intro key
      rw [lookup?_overlayMembers inOrder.nodup]
      cases present : lookup? key members with
      | none =>
        have kept := laid.kept [] key [] ⟨bottom, rfl⟩ ⟨members, rfl⟩
          (valueAt?_of_lookup?_eq_none present [])
        rwa [List.nil_append, valueAt?_singleton, valueAt?_singleton] at kept
      | some value =>
        obtain ⟨inner, placed⟩ := laid.exists_lookup? present
        rw [placed]
        exact congrArg some (ih key value present (below.lookupOrNull key)
          (ordered.of_lookup? placed) (laid.under_key present placed))

/-- A value laid over itself is that value. -/
theorem refl (value : Json) : IsLaidOver value value value where
  given _ _ found _ := found
  kept _ _ _ _ _ _ := rfl
  fresh _ _ _ := rfl
  joined _ object _ := object

/-- The patch laid over the whole once more is the whole. -/
theorem again (laid : IsLaidOver base patch whole) : IsLaidOver whole patch whole where
  given := laid.given
  kept _ _ _ _ _ _ := rfl
  fresh path above absent :=
    laid.fresh path above fun below => absent (laid.joined path below above)
  joined _ object _ := object

end IsLaidOver

/-! ## The laws -/

/-- Laying a patch over a base a second time changes nothing, and neither does laying a value over
itself. What stands in the overlay at a path is said by the base and the patch, and they say it of
no other value. -/
theorem overlay_laws {base patch : Json} (below : IsOrdered base) (above : IsOrdered patch) :
    overlay (overlay base patch) patch = overlay base patch ∧ overlay base base = base ∧
      IsLaidOver base patch (overlay base patch) ∧
      ∀ whole, IsOrdered whole → IsLaidOver base patch whole → whole = overlay base patch := by
  have laid : IsLaidOver base patch (overlay base patch) := isLaidOver_overlay base above
  have ordered : IsOrdered (overlay base patch) := below.overlay above
  refine ⟨?_, ?_, laid, fun whole inOrder same => same.eq_overlay above below inOrder⟩
  · exact (laid.again.eq_overlay above ordered ordered).symm
  · exact ((IsLaidOver.refl base).eq_overlay below below below).symm

/-- Paths, a host that is a list, and what is known of a proxy. -/
def layoutValue : Json :=
  .object [("commonPaths",
      .object [("logDirectory", .string "/srv/log"), ("tempDirectory", .string "/tmp")]),
    ("networkSettings", .array [.string "localhost"]),
    ("proxy", .object [])]

/-- No directory for logs, settings of a network in place of a list, and a proxy without a name. -/
def layoutPatch : Json :=
  .object [("commonPaths", .object [("logDirectory", .null)]),
    ("networkSettings", .object [("timeoutSeconds", .ofNat 5)]),
    ("proxy", .object [])]

theorem overlay_laws_layout :
    let whole := overlay layoutValue layoutPatch
    IsOrdered layoutValue ∧ IsOrdered layoutPatch ∧
      overlay whole layoutPatch = whole ∧ overlay layoutValue layoutValue = layoutValue ∧
      whole.valueAt? ["commonPaths", "logDirectory"] = some .null ∧
      whole.valueAt? ["commonPaths", "tempDirectory"] = some (.string "/tmp") ∧
      whole.valueAt? ["commonPaths", "backupDirectory", "weekly"] = none ∧
      whole.valueAt? ["networkSettings"] = some (.object [("timeoutSeconds", .ofNat 5)]) ∧
      whole.HasObjectAt ["proxy"] := by
  have below : IsOrdered layoutValue := isOrdered_sorted layoutValue
  have above : IsOrdered layoutPatch := isOrdered_sorted layoutPatch
  obtain ⟨again, self, laid, -⟩ := overlay_laws below above
  refine ⟨below, above, again, self, ?_, ?_, ?_, ?_, ?_⟩
  · exact laid.given ["commonPaths", "logDirectory"] .null rfl rfl
  · exact laid.kept ["commonPaths"] "tempDirectory" [] ⟨_, rfl⟩ ⟨_, rfl⟩ rfl
  · exact laid.kept ["commonPaths"] "backupDirectory" ["weekly"] ⟨_, rfl⟩ ⟨_, rfl⟩ rfl
  · refine laid.fresh ["networkSettings"] ⟨_, rfl⟩ ?_
    rintro ⟨members, found⟩
    cases found
  · exact laid.joined ["proxy"] ⟨_, rfl⟩ ⟨_, rfl⟩

end CommandSynthesis.Json
