import CommandSynthesis.Toml.Scalar

set_option autoImplicit false

/-!
# Defining tables

A document defines its tables bit by bit: under headers, as elements of lists, and by keys with
dots. Each table is defined in one way only, and each key once. `within` follows a path and changes
the table at its end; what is missing on the way is made.
-/

namespace CommandSynthesis.Toml

/-- How a table came about. -/
inductive Origin where
  /-- Under a header of its own, or as an element of a list. -/
  | header
  /-- On the path of a header. -/
  | implied
  /-- On the path of a key with dots. -/
  | dotted
  deriving DecidableEq, Repr

/-- A part of a document that is being defined. -/
inductive Node where
  | value (value : Value)
  | table (origin : Origin) (members : List (String × Node))
  /-- A list of tables, the latest first. -/
  | elements (latest : List (String × Node)) (earlier : List (List (String × Node)))
  deriving Repr, Inhabited

/-- The parts of a table that is being defined. -/
abbrev Scope := List (String × Node)

namespace Scope

/-- Gives a name that is not new another part. -/
def replace (name : String) (node : Node) : Scope → Scope
  | [] => []
  | (other, old) :: rest =>
    if other = name then (name, node) :: rest else (other, old) :: replace name node rest

/-- A change of a table, which may depend on how the table came about. It may not be allowed. -/
abbrev Change := Origin → Scope → Option Scope

/-- Changes the table at the end of a path. A list on the path stands for its latest element. The
path of a key may not lead through a table with a header. -/
def within (dotted : Bool) (change : Change) (origin : Origin) :
    List String → Scope → Option Scope
  | [], scope => change origin scope
  | name :: path, scope =>
    match scope.lookup name with
    | none =>
      let origin := if dotted then .dotted else .implied
      (within dotted change origin path []).map fun inside =>
        scope ++ [(name, .table origin inside)]
    | some (.value _) => none
    | some (.table origin inside) =>
      if dotted && origin = .header then none
      else
        (within dotted change origin path inside).map fun inside =>
          replace name (.table origin inside) scope
    | some (.elements latest earlier) =>
      (within dotted change .header path latest).map fun latest =>
        replace name (.elements latest earlier) scope

/-- Adds a value under a new name. A table reached by a path must have come about so. -/
def addValue (reached : Bool) (name : String) (value : Value) : Change := fun origin scope =>
  if reached && origin ≠ .dotted then none
  else if (scope.lookup name).isSome then none
  else some (scope ++ [(name, .value value)])

/-- Adds a value under a path from a table on. -/
def assign (path : List String) (value : Value) (scope : Scope) : Option Scope := do
  let name ← path.getLast?
  let path := path.dropLast
  within true (addValue (!path.isEmpty) name value) .header path scope

/-- Begins a table under a header; it may have been implied before. -/
def addTable (name : String) : Change := fun _ scope =>
  match scope.lookup name with
  | none => some (scope ++ [(name, .table .header [])])
  | some (.table .implied inside) => some (replace name (.table .header inside) scope)
  | some _ => none

/-- Begins a new element of a list of tables. -/
def addElement (name : String) : Change := fun _ scope =>
  match scope.lookup name with
  | none => some (scope ++ [(name, .elements [] [])])
  | some (.elements latest earlier) =>
    some (replace name (.elements [] (latest :: earlier)) scope)
  | some _ => none

end Scope

namespace Node

mutual

def toValue : Node → Value
  | .value content => content
  | .table _ members => .table (toMembers members)
  | .elements latest earlier => .array (toTables [.table (toMembers latest)] earlier)

/-- The members that the parts of a table have become. -/
def toMembers : List (String × Node) → Members
  | [] => []
  | (name, node) :: rest => (name, toValue node) :: toMembers rest

/-- The elements of a list, of which `later` come after those given. -/
def toTables (later : List Value) : List (List (String × Node)) → List Value
  | [] => later
  | members :: earlier => toTables (.table (toMembers members) :: later) earlier

end

end Node

/-- What a line of a document says. -/
inductive Statement where
  | openTable (path : List String)
  | openElement (path : List String)
  | assign (path : List String) (value : Value)
  deriving Repr

/-- A document up to some line: what it has defined, and the path of the table that the next values
belong to. -/
structure Draft where
  root : Scope
  current : List String

namespace Draft

/-- Makes a change in the table that holds the one at a path. -/
def change (draft : Draft) (make : String → Scope.Change) (path : List String) : Option Draft := do
  let name ← path.getLast?
  let root ← Scope.within false (make name) .header path.dropLast draft.root
  return ⟨root, path⟩

def add (draft : Draft) : Statement → Option Draft
  | .openTable path => draft.change Scope.addTable path
  | .openElement path => draft.change Scope.addElement path
  | .assign path value => do
    let change := fun _ => Scope.assign path value
    let root ← Scope.within false change .header draft.current draft.root
    return { draft with root }

end Draft

/-- The members of the document with the given statements. -/
def Members.ofStatements? (statements : List Statement) : Option Members := do
  let draft ← statements.foldlM Draft.add ⟨[], []⟩
  return Node.toMembers draft.root

end CommandSynthesis.Toml
