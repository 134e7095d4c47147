set_option autoImplicit false

/-!
# Paths of files

The way from the root to a file, and the names of which a path consists. A path is followed from the
root or from a directory, and may go up again or stay where it is; the way to a file does neither.
-/

namespace CommandSynthesis

/-- The way from the root to a file or directory: the names on it, each behind a slash. -/
structure FilePath where
  text : String
  deriving DecidableEq, Repr, Inhabited

namespace FilePath

def root : FilePath := ⟨""⟩

def isRoot (path : FilePath) : Bool :=
  path.text.isEmpty

/-- The way to what has a name in a directory. -/
def child (path : FilePath) (name : String) : FilePath :=
  ⟨path.text ++ "/" ++ name⟩

/-- The way to the directory that something is in; the root is in itself. -/
def parent (path : FilePath) : FilePath :=
  ⟨String.ofList ((path.text.toList.reverse.dropWhile (· ≠ '/')).drop 1).reverse⟩

def ofNames (names : List String) : FilePath :=
  names.foldl child root

theorem child_inj {path : FilePath} {name other : String} :
    path.child name = path.child other ↔ name = other := by
  simp [child]

theorem parent_child {path : FilePath} {name : String} (h : '/' ∉ name.toList) :
    (path.child name).parent = path := by
  have stops : ∀ chars rest : List Char, '/' ∉ chars →
      (chars ++ '/' :: rest).dropWhile (· ≠ '/') = '/' :: rest := by
    intro chars rest absent
    induction chars with
    | nil => simp
    | cons c chars ih =>
      simp only [List.mem_cons, not_or] at absent
      simpa [Ne.symm absent.1] using ih absent.2
  simp only [parent, child, String.toList_append]
  have slash : "/".toList = ['/'] := rfl
  rw [slash, List.reverse_append, List.reverse_append, List.reverse_singleton,
    List.singleton_append, stops _ _ (by simpa using h)]
  simp

end FilePath

namespace Path

/-- Whether a path is followed from the root. -/
def isAbsolute (path : String) : Bool :=
  path.toList.head? == some '/'

def names (path : String) : List String :=
  ((path.toList.splitOn '/').map String.ofList).filter fun name => name ≠ ""

/-- The steps in which a path is gone when directories are made on it: each ends with a name. A dot,
which leads nowhere, is gone together with the name after it or, at the end, before it. -/
def steps : List String → List (List String)
  | [] => []
  | name :: rest =>
    if rest.all (· = ".") then [name :: rest]
    else if name = "." then
      match steps rest with
      | [] => [[name]]
      | step :: others => (name :: step) :: others
    else [name] :: steps rest

def join (directory path : String) : String :=
  if isAbsolute path then path
  else if directory.isEmpty ∨ directory.toList.getLast? = some '/' then directory ++ path
  else directory ++ "/" ++ path

theorem flatten_steps (names : List String) : (steps names).flatten = names := by
  induction names with
  | nil => rfl
  | cons name rest ih =>
    simp only [steps]
    split
    · simp
    · split
      · split
        · simp_all
        · simp_all
      · simp [ih]

end Path

end CommandSynthesis
