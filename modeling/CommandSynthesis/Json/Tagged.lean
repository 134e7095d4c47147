import CommandSynthesis.Json.Decoder

set_option autoImplicit false

/-!
# Tagged values

A value whose form depends on one of its members, the tag. The tag may stand anywhere among the
members, so the others are set aside until it is known; given as a list, the tag comes first.
-/

namespace CommandSynthesis

namespace Decoder

variable {α : Type}

/-- Checks that all of a value that is set aside can be used. -/
def setAside (origin : Origin) (value : Outline) : Except Misfit Unit :=
  match origin with
  | .text depth => (value.verify depth).mapError Misfit.fault
  | _ => .ok ()

/-- Decodes a tag: the name of one of some variants. -/
def tag (known : List String) (value : Outline) : Except Misfit String :=
  match value with
  | .string (some name) =>
    if known.contains name then .ok name
    else .error (.mismatch (.unknownVariant name known))
  | found => .error (found.refuse "variant identifier")

/-- Finds the tag among members, and sets the others aside. -/
def splitTag (name : String) (known : List String) (origin : Origin) (found : Option String) :
    List (Outline × Outline) → Except Misfit (Option String × List (Outline × Outline))
  | [] => .ok (found, [])
  | (key, value) :: rest => do
    let text ← Decoder.key key
    if text = name then
      if found.isSome then throw (.mismatch (.duplicateField name))
      let variant ← tag known value
      splitTag name known origin (some variant) rest
    else
      setAside origin value
      let (found, others) ← splitTag name known origin found rest
      return (found, (key, value) :: others)

def setItemsAside (origin : Origin) : List Outline → Except Misfit Unit
  | [] => .ok ()
  | item :: rest => do
    setAside origin item
    setItemsAside origin rest

/-- Decodes a value with a tag: `decode` makes the value of what was set aside for a variant. -/
def tagged (expected name : String) (known : List String)
    (decode : String → Outline → Except Misfit α) : Decoder α
  | origin, .object members stop => do
    let inside ← origin.enter
    let (found, others) ← splitTag name known inside none members
    Misfit.stopped stop
    match found with
    | some variant => decode variant (.object others none)
    | none => throw (.mismatch (.missingField name))
  | origin, .array [] stop => do
    let _ ← origin.enter
    Misfit.stopped stop
    throw (.mismatch (.missingField name))
  | origin, .array (first :: rest) stop => do
    let inside ← origin.enter
    let variant ← tag known first
    setItemsAside inside rest
    Misfit.stopped stop
    decode variant (.array rest none)
  | _, found => .error (found.refuse expected)

end Decoder

end CommandSynthesis
