import CommandSynthesis.Json.Basic

set_option autoImplicit false

/-!
# Outline of a JSON text

What a JSON text holds as far as it can be read, with every fault at the place where it stands. A
reader that skips part of a text is not stopped by everything that stops one that uses it: a number
beyond all reals and a string with half of a surrogate pair can be skipped but not used.
-/

namespace CommandSynthesis

/-- Why a text is not JSON: something in it is out of place, or it ends too soon. -/
inductive Fault where
  | malformed
  | truncated
  deriving DecidableEq, Repr

/-- The fault that stops the reading of a value: when the value is used, when it is skipped, and
when only its first character is looked at. -/
structure Stop where
  used : Fault
  skipped : Fault
  glanced : Fault
  deriving DecidableEq, Repr

namespace Stop

/-- The same fault for every reader. -/
def always (fault : Fault) : Stop := ⟨fault, fault, fault⟩

end Stop

/-- A value of a text. A list of items or members may stop with a fault; after such a fault, and
after a broken value, nothing more of the text is known. -/
inductive Outline where
  | null
  | bool (value : Bool)
  /-- A number; none when it is beyond all reals. -/
  | number (value : Option Number)
  /-- A string; none when it holds half of a surrogate pair. -/
  | string (value : Option String)
  | array (items : List Outline) (stop : Option Fault)
  | object (members : List (Outline × Outline)) (stop : Option Fault)
  | broken (stop : Stop)
  deriving Repr, Inhabited

namespace Outline

mutual

def ofJson : Json → Outline
  | .null => .null
  | .bool value => .bool value
  | .number value => .number (some value)
  | .string value => .string (some value)
  | .array items => .array (ofItems items) none
  | .object members => .object (ofMembers members) none

def ofItems : List Json → List Outline
  | [] => []
  | item :: rest => ofJson item :: ofItems rest

def ofMembers : List (String × Json) → List (Outline × Outline)
  | [] => []
  | (key, value) :: rest => (.string (some key), ofJson value) :: ofMembers rest

end

/-- A fault that ends a list, if there is one. -/
def stopped : Option Fault → Except Fault Unit
  | some fault => .error fault
  | none => .ok ()

mutual

/-- Passes over a value that nobody needs. -/
def skip : Outline → Except Fault Unit
  | .array items stop => do skipItems items; stopped stop
  | .object members stop => do skipMembers members; stopped stop
  | .broken stop => .error stop.skipped
  | _ => .ok ()

def skipItems : List Outline → Except Fault Unit
  | [] => .ok ()
  | item :: rest => do skip item; skipItems rest

/-- Passes over members; a key must be a string. -/
def skipMembers : List (Outline × Outline) → Except Fault Unit
  | [] => .ok ()
  | (key, value) :: rest => do
    match key with
    | .string _ => .ok ()
    | .broken stop => .error stop.skipped
    | _ => .error .malformed
    skip value
    skipMembers rest

end

mutual

/-- Whether all of a value can be used, `depth` more brackets being allowed inside one another. -/
def verify (depth : Nat) : Outline → Except Fault Unit
  | .null => .ok ()
  | .bool _ => .ok ()
  | .number (some _) => .ok ()
  | .string (some _) => .ok ()
  | .number none => .error .malformed
  | .string none => .error .malformed
  | .array items stop =>
    match depth with
    | 0 => .error .malformed
    | depth + 1 => do verifyItems depth items; stopped stop
  | .object members stop =>
    match depth with
    | 0 => .error .malformed
    | depth + 1 => do verifyMembers depth members; stopped stop
  | .broken stop => .error stop.used

def verifyItems (depth : Nat) : List Outline → Except Fault Unit
  | [] => .ok ()
  | item :: rest => do verify depth item; verifyItems depth rest

def verifyMembers (depth : Nat) : List (Outline × Outline) → Except Fault Unit
  | [] => .ok ()
  | (key, value) :: rest => do
    match key with
    | .string (some _) => .ok ()
    | .broken stop => .error stop.used
    | _ => .error .malformed
    verify depth value
    verifyMembers depth rest

end

mutual

/-- The value of an outline, with the members of objects sorted. What cannot be used counts as
null. -/
def toJson : Outline → Json
  | .bool value => .bool value
  | .number (some value) => .number value
  | .string (some value) => .string value
  | .array items _ => .array (toItems items)
  | .object members _ => .object (toMembers [] members)
  | _ => .null

def toItems : List Outline → List Json
  | [] => []
  | item :: rest => toJson item :: toItems rest

/-- Puts members among members that are sorted; a later member replaces one with its key. -/
def toMembers (done : List (String × Json)) :
    List (Outline × Outline) → List (String × Json)
  | [] => done
  | (.string (some key), value) :: rest => toMembers (Json.insert key (toJson value) done) rest
  | _ :: rest => toMembers done rest

end

end Outline

/-- A whole text: its value, and the fault of what follows the value. -/
structure Document where
  root : Outline
  rest : Option Fault
  deriving Repr, Inhabited

end CommandSynthesis
