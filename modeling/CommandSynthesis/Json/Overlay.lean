import CommandSynthesis.Json.Basic

set_option autoImplicit false

/-!
# Overlay

Laying one value over another: objects are joined member by member, and anything else replaces what
is below it.
-/

namespace CommandSynthesis.Json

/-- The value of a key among members, null if there is none. -/
def lookupOrNull (key : String) (members : List (String × Json)) : Json :=
  (lookup? key members).getD .null

mutual

/-- A value with a patch laid over it. -/
def overlay (base : Json) : Json → Json
  | .object patch =>
    match base with
    | .object members => .object (overlayMembers members patch)
    | _ => .object patch
  | patch => patch

/-- Members with the members of a patch laid over them one after another. -/
def overlayMembers (members : List (String × Json)) :
    List (String × Json) → List (String × Json)
  | [] => members
  | (key, value) :: rest =>
    overlayMembers (insert key (overlay (lookupOrNull key members) value) members) rest

end

end CommandSynthesis.Json
