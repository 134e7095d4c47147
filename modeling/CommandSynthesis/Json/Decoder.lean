import CommandSynthesis.Json.Mismatch
import CommandSynthesis.Json.Reader

set_option autoImplicit false

/-!
# Decoding

From an outline to values of other types. A decoder looks at a value in the order in which it
stands in a text, so the first misfit in that order is the one reported. Where a value comes from
decides how far it may be nested and what is said of a list that is too long.
-/

namespace CommandSynthesis

/-- Where a value comes from. -/
inductive Origin where
  /-- A text, in which `depth` more brackets may stand inside one another. -/
  | text (depth : Nat)
  /-- A value that was read as a whole. -/
  | value
  /-- What was kept aside until the form of a record was known. -/
  | aside
  deriving DecidableEq, Repr

def Origin.enter : Origin → Except Misfit Origin
  | .text 0 => .error (.fault .malformed)
  | .text (depth + 1) => .ok (.text depth)
  | origin => .ok origin

/-- How a value of a type is made from an outline. -/
abbrev Decoder (α : Type) := Origin → Outline → Except Misfit α

namespace Decoder

variable {α β : Type}

def string : Decoder String
  | _, .string (some text) => .ok text
  | _, found => .error (found.refuse "a string")

def path : Decoder String
  | _, .string (some text) => .ok text
  | _, found => .error (found.refuse "path string")

def bool : Decoder Bool
  | _, .bool value => .ok value
  | _, found => .error (found.refuse "a boolean")

/-- An integer between two bounds, for a type of the given name. -/
def integer (expected : String) (low high : Int) : Decoder Int
  | _, .number (some (.integer value)) =>
    if low ≤ value ∧ value ≤ high then .ok value
    else .error (.mismatch (.value (Number.integer value).describe expected))
  | _, found => .error (found.refuse expected)

/-- A natural number that fits 64 bits, for a type of the given name. -/
def natural (expected : String) : Decoder Nat :=
  fun origin value => (integer expected 0 0xFFFFFFFFFFFFFFFF origin value).map Int.toNat

def signed : Decoder Int :=
  integer "i64" (-0x8000000000000000) 0x7FFFFFFFFFFFFFFF

/-- The value or, for null, nothing. -/
def nullable (decoder : Decoder α) : Decoder (Option α)
  | _, .null => .ok none
  | origin, value => (decoder origin value).map some

def items (decoder : Decoder α) (origin : Origin) : List Outline → Except Misfit (List α)
  | [] => .ok []
  | item :: rest => do
    let value ← decoder origin item
    let values ← items decoder origin rest
    return value :: values

def list (decoder : Decoder α) : Decoder (List α)
  | origin, .array contents stop => do
    let inside ← origin.enter
    let values ← items decoder inside contents
    Misfit.stopped stop
    return values
  | _, found => .error (found.refuse "a sequence")

def key : Outline → Except Misfit String
  | .string (some name) => .ok name
  | .broken stop => .error (.fault stop.used)
  | _ => .error (.fault .malformed)

/-- The value that a name stands for, among the values of a type without contents. -/
def byName (table : List (String × α)) (known : List String) (name : String) :
    Except Misfit α :=
  match table.lookup name with
  | some value => .ok value
  | none => .error (.mismatch (.unknownVariant name known))

/-- One of the values in a table, given by its name or by an object whose only key is the name and
whose value is null. A table may hold a value under several names. -/
def variant (table : List (String × α)) : Decoder α
  | _, .string (some name) => byName table (table.map Prod.fst) name
  | .text 0, .object _ _ => .error (.fault .malformed)
  | .text _, .object [] stop => .error (.fault (stop.getD .malformed))
  | .text _, .object ((name, content) :: rest) stop => do
    let value ← byName table (table.map Prod.fst) (← key name)
    match content with
    | .null => .ok ()
    | _ => .error (content.refuse "unit")
    match rest with
    | [] => Misfit.stopped stop
    | _ :: _ => .error (.fault .malformed)
    return value
  | .text _, .broken stop => .error (.fault stop.glanced)
  | .text _, _ => .error (.fault .malformed)
  | _, .object [(name, content)] _ => do
    let value ← byName table (table.map Prod.fst) (← key name)
    match content with
    | .null => .ok value
    | _ => .error (content.refuse "unit")
  | _, .object _ _ => .error (.mismatch (.value "map" "map with a single key"))
  | _, found => .error (found.refuse "string or map")

end Decoder

/-- A field of a record: whether it must be given, and the check of its value. -/
structure Field where
  name : String
  required : Bool
  check : Decoder Unit

namespace Field

variable {α : Type}

def mandatory (name : String) (decoder : Decoder α) : Field :=
  ⟨name, true, fun origin value => (decoder origin value).map fun _ => ()⟩

def optional (name : String) (decoder : Decoder α) : Field :=
  ⟨name, false, fun origin value => (decoder origin value).map fun _ => ()⟩

/-- What a field that is left out gives. -/
def missing? (field : Field) : Except Misfit Unit :=
  if field.required then .error (.mismatch (.missingField field.name)) else .ok ()

end Field

/-- The values of the fields of a record, and where they come from. -/
structure Record where
  origin : Origin
  values : List (String × Outline)

namespace Record

variable {α : Type}

/-- The value of a field; a field that was left out has a default. -/
def get (record : Record) (name : String) (decoder : Decoder α) (default : α) :
    Except Misfit α :=
  match record.values.lookup name with
  | some value => decoder record.origin value
  | none => .ok default

/-- The value of a field that must be given. -/
def require (record : Record) (name : String) (decoder : Decoder α) : Except Misfit α :=
  match record.values.lookup name with
  | some value => decoder record.origin value
  | none => .error (.mismatch (.missingField name))

/-- Gathers the fields among members, in the order of the members. Each value is checked where it
stands; members that are no fields are skipped, and a field may come only once. -/
def ofMembers (fields : List Field) (origin : Origin) (done : List (String × Outline)) :
    List (Outline × Outline) → Except Misfit (List (String × Outline))
  | [] => .ok done
  | (key, value) :: rest => do
    let name ← Decoder.key key
    match fields.find? (·.name == name) with
    | some field =>
      if (done.lookup name).isSome then throw (.mismatch (.duplicateField name))
      field.check origin value
      ofMembers fields origin ((name, value) :: done) rest
    | none =>
      value.skip.mapError Misfit.fault
      ofMembers fields origin done rest

def countPhrase (count : Nat) : String :=
  Decimal.ofNat count ++ if count = 1 then " element" else " elements"

/-- The misfit of a list with more items than a record has fields. -/
def tooLong (origin : Origin) (fields total : Nat) : Misfit :=
  match origin with
  | .text _ => .fault .malformed
  | .value => .mismatch (.length total "fewer elements in array")
  | .aside =>
    .mismatch (.length total (countPhrase fields ++ " in sequence"))

/-- Gathers the fields from items in the order of the fields; `before` items came earlier. -/
def ofItems (expected : String) (origin : Origin) (before : Nat) (stop : Option Fault) :
    List Field → List Outline → Except Misfit (List (String × Outline))
  | [], [] => do
    Misfit.stopped stop
    return []
  | [], extra => .error (tooLong origin before (before + extra.length))
  | field :: fields, [] => do
    Misfit.stopped stop
    if field.required then throw (.mismatch (.length before expected))
    ofItems expected origin (before + 1) stop fields []
  | field :: fields, item :: rest => do
    field.check origin item
    let values ← ofItems expected origin (before + 1) stop fields rest
    return (field.name, item) :: values

/-- Reads a record, given as an object or as the list of its fields. -/
def read (name : String) (fields : List Field) : Decoder Record
  | origin, .object members stop => do
    let inside ← origin.enter
    let values ← ofMembers fields inside [] members
    Misfit.stopped stop
    for field in fields do
      if (values.lookup field.name).isNone then field.missing?
    return ⟨inside, values⟩
  | origin, .array contents stop => do
    let inside ← origin.enter
    let expected := name ++ " with " ++ countPhrase fields.length
    let values ← ofItems expected inside 0 stop fields contents
    return ⟨inside, values⟩
  | _, found => .error (found.refuse name)

end Record

namespace Decoder

variable {α : Type}

def ofValue (decoder : Decoder α) (value : Json) : Except Misfit α :=
  decoder .value (.ofJson value)

def ofText (decoder : Decoder α) (text : String) : Except Misfit α := do
  let document := Document.read text
  let value ← decoder (.text Json.maxDepth) document.root
  Misfit.stopped document.rest
  return value

end Decoder

end CommandSynthesis
