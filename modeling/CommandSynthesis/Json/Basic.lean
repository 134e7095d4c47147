import CommandSynthesis.Decimal.Binary64

set_option autoImplicit false

/-!
# JSON values

An object is the list of its members in the order in which they are written. An object made from a
text has its members sorted by key, each key once; `insert` keeps this form, and `sorted` brings
any value into it.
-/

namespace CommandSynthesis

/-- A number: an integer of 64 bits, with or without sign, or a real. -/
inductive Number where
  | integer (value : Int)
  | real (value : Binary64)
  deriving DecidableEq, Repr, Inhabited

inductive Json where
  | null
  | bool (value : Bool)
  | number (value : Number)
  | string (value : String)
  | array (items : List Json)
  | object (members : List (String × Json))
  deriving Repr, Inhabited

namespace Json

def ofNat (n : Nat) : Json :=
  .number (.integer n)

def ofStrings (texts : List String) : Json :=
  .array (texts.map .string)

def lookup? (key : String) : List (String × Json) → Option Json
  | [] => none
  | (name, value) :: rest => if name = key then some value else lookup? key rest

/-- Puts a member among members sorted by key; a member with the same key is replaced. -/
def insert (key : String) (value : Json) : List (String × Json) → List (String × Json)
  | [] => [(key, value)]
  | (name, old) :: rest =>
    if key < name then (key, value) :: (name, old) :: rest
    else if key = name then (key, value) :: rest
    else (name, old) :: insert key value rest

def erase (key : String) (members : List (String × Json)) : List (String × Json) :=
  members.filter fun member => member.1 ≠ key

/-- The members of an object; other values have none. -/
def members : Json → List (String × Json)
  | .object members => members
  | _ => []

def isObject : Json → Bool
  | .object _ => true
  | _ => false

/-- The value of a key of an object. -/
def get? (value : Json) (key : String) : Option Json :=
  lookup? key value.members

mutual

/-- The value with the members of every object sorted by key; of members with one key the last
stays. -/
def sorted : Json → Json
  | .array items => .array (sortedItems items)
  | .object members => .object (sortedMembers [] members)
  | value => value

def sortedItems : List Json → List Json
  | [] => []
  | item :: rest => sorted item :: sortedItems rest

def sortedMembers (done : List (String × Json)) : List (String × Json) → List (String × Json)
  | [] => done
  | (key, value) :: rest => sortedMembers (insert key (sorted value) done) rest

end

end Json

end CommandSynthesis
