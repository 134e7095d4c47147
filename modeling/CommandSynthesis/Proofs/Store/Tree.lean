import CommandSynthesis.Proofs.Store.Path
import Mathlib.Data.Set.Insert

set_option autoImplicit false

/-!
# What changes in a tree

Where a path leads depends on its names alone; the tree decides whether it can be followed. Changes
are said by the places that they may concern: all other places keep what they hold, except that
directories may be made where nothing was. No change takes a directory away, so a directory that
can be entered stays so.
-/

namespace CommandSynthesis

namespace FilePath

def step (place : FilePath) (name : String) : FilePath :=
  if name = "." then place else if name = ".." then place.parent else place.child name

/-- Where names lead from a place. -/
def along (place : FilePath) (names : List String) : FilePath :=
  names.foldl step place

theorem step_of_isName {name : String} (plain : Path.IsName name) (place : FilePath) :
    place.step name = place.child name := by
  rw [step, if_neg plain.ne_dot, if_neg plain.ne_dots]

theorem isRoot_child (place : FilePath) (name : String) : (place.child name).isRoot = false := by
  simp [isRoot, child]

end FilePath

namespace FileTree

variable {tree before middle after : FileTree} {place : FilePath}

/-! ## Entries -/

theorem find?_insert (inner : place.isRoot = false) (entry : FileEntry) (other : FilePath) :
    (tree.insert place entry).find? other =
      if other = place then some entry else tree.find? other := by
  unfold find? insert
  by_cases root : other.isRoot = true
  · have ne : other ≠ place := by
      rintro rfl
      rw [inner] at root
      cases root
    rw [if_pos root, if_pos root, if_neg ne]
  · rw [if_neg root, if_neg root, Entries.lookup_put]

theorem find?_erase (inner : place.isRoot = false) (other : FilePath) :
    (tree.erase place).find? other = if other = place then none else tree.find? other := by
  unfold find? erase
  by_cases root : other.isRoot = true
  · have ne : other ≠ place := by
      rintro rfl
      rw [inner] at root
      cases root
    rw [if_pos root, if_pos root, if_neg ne]
  · rw [if_neg root, if_neg root, Entries.lookup_filter_ne]

theorem isRoot_of_find?_ne (found : tree.find? place ≠ some .directory) :
    place.isRoot = false := by
  cases root : place.isRoot with
  | false => rfl
  | true => exact absurd (by rw [find?, if_pos root]) found

/-! ## Following names -/

theorem requireDirectory_eq_ok_iff :
    tree.requireDirectory place = .ok () ↔ tree.find? place = some .directory := by
  unfold requireDirectory
  split <;> simp_all

theorem follow_cons_eq_ok_iff {name : String} {names : List String} {last : FilePath} :
    tree.follow place (name :: names) = .ok last ↔
      tree.find? place = some .directory ∧
        (name = "." ∨ name = ".." ∨ name.utf8ByteSize ≤ maxNameSize) ∧
        tree.follow (place.step name) names = .ok last := by
  rw [follow, ← requireDirectory_eq_ok_iff]
  cases tree.requireDirectory place with
  | error error => simp [bind, Except.bind]
  | ok =>
    simp only [bind, Except.bind, FilePath.step, true_and]
    by_cases dot : name = "."
    · simp [dot]
    · by_cases dots : name = ".."
      · simp [dots]
      · by_cases long : maxNameSize < name.utf8ByteSize
        · simp [dot, dots, long, Nat.not_le.mpr long]
        · simp [dot, dots, long, Nat.not_lt.mp long]

theorem follow_append {front back : List String} {last : FilePath} :
    tree.follow place (front ++ back) = .ok last ↔
      ∃ middle, tree.follow place front = .ok middle ∧ tree.follow middle back = .ok last := by
  induction front generalizing place with
  | nil => simp [follow]
  | cons name front ih =>
    rw [List.cons_append, follow_cons_eq_ok_iff, ih]
    simp only [follow_cons_eq_ok_iff]
    constructor
    · rintro ⟨entered, fits, middle, first, second⟩
      exact ⟨middle, ⟨entered, fits, first⟩, second⟩
    · rintro ⟨middle, ⟨entered, fits, first⟩, second⟩
      exact ⟨entered, fits, middle, first, second⟩

theorem eq_along_of_follow {names : List String} {last : FilePath}
    (followed : tree.follow place names = .ok last) : last = place.along names := by
  induction names generalizing place with
  | nil => cases followed; rfl
  | cons name names ih => exact ih (follow_cons_eq_ok_iff.mp followed).2.2

/-- The place to which the path of a directory leads. -/
def placeOf (tree : FileTree) (directory : String) : FilePath :=
  (tree.start directory).along (Path.names directory)

/-- A directory can be entered. -/
structure Reaches (tree : FileTree) (directory : String) : Prop where
  followed : tree.follow (tree.start directory) (Path.names directory) =
    .ok (tree.placeOf directory)
  entered : tree.find? (tree.placeOf directory) = some .directory

/-- A name, and its path in a directory, can be asked of a file system. -/
structure Fits (directory name : String) : Prop where
  valid : '\x00' ∉ (Path.join directory name).toList
  path : (Path.join directory name).utf8ByteSize ≤ maxPathSize
  name : name.utf8ByteSize ≤ maxNameSize

theorem walk_eq_ok_iff {path : String} {last : FilePath} : tree.walk path = .ok last ↔
    '\x00' ∉ path.toList ∧ path ≠ "" ∧ path.utf8ByteSize ≤ maxPathSize ∧
      tree.follow (tree.start path) (Path.names path) = .ok last := by
  unfold walk
  by_cases invalid : '\x00' ∈ path.toList
  · simp [invalid]
  · by_cases empty : path = ""
    · simp [empty]
    · by_cases long : maxPathSize < path.utf8ByteSize
      · simp [invalid, empty, long, Nat.not_le.mpr long]
      · simp [invalid, empty, long, Nat.not_lt.mp long]

theorem start_congr {path other : String} (same : Path.isAbsolute path = Path.isAbsolute other) :
    tree.start path = tree.start other := by
  rw [start, start, same]

variable {directory name : String}

theorem locate_join_eq_ok_iff (plain : Path.IsName name) {last : FilePath} :
    tree.locate (Path.join directory name) = .ok last ↔
      Fits directory name ∧ tree.Reaches directory ∧
        last = (tree.placeOf directory).child name := by
  have located : tree.locate (Path.join directory name) = .ok last ↔
      tree.walk (Path.join directory name) = .ok last := by
    unfold locate
    cases tree.walk (Path.join directory name) <;>
      simp [bind, Except.bind, pure, Except.pure, Path.getLast?_join plain]
  rw [located, walk_eq_ok_iff, start_congr (Path.isAbsolute_join plain), Path.names_join plain,
    follow_append]
  constructor
  · rintro ⟨valid, -, short, middle, first, second⟩
    obtain ⟨entered, fits, rest⟩ := follow_cons_eq_ok_iff.mp second
    obtain rfl := eq_along_of_follow first
    refine ⟨⟨valid, short, ?_⟩, ⟨first, entered⟩, ?_⟩
    · exact (fits.resolve_left plain.ne_dot).resolve_left plain.ne_dots
    · cases rest
      exact FilePath.step_of_isName plain _
  · rintro ⟨fits, reaches, rfl⟩
    refine ⟨fits.valid, Path.join_ne_empty plain, fits.path, _, reaches.followed, ?_⟩
    refine follow_cons_eq_ok_iff.mpr ⟨reaches.entered, .inr (.inr fits.name), ?_⟩
    rw [FilePath.step_of_isName plain]
    rfl

/-! ## Changes -/

/-- Of what is at the places outside a set, the one tree differs from the other by new directories
alone. -/
structure Alters (places : Set FilePath) (before after : FileTree) : Prop where
  workingDirectory : after.workingDirectory = before.workingDirectory
  directories : ∀ place, before.find? place = some .directory → after.find? place = some .directory
  others : ∀ place, place ∉ places → after.find? place = before.find? place ∨
    before.find? place = none ∧ after.find? place = some .directory

variable {places more : Set FilePath}

theorem Alters.refl (places : Set FilePath) (tree : FileTree) : Alters places tree tree :=
  ⟨rfl, fun _ found => found, fun _ _ => .inl rfl⟩

theorem Alters.mono (alters : Alters places before after) (sub : places ⊆ more) :
    Alters more before after :=
  ⟨alters.workingDirectory, alters.directories,
    fun place out => alters.others place fun mem => out (sub mem)⟩

theorem Alters.trans (first : Alters places before middle) (second : Alters places middle after) :
    Alters places before after where
  workingDirectory := second.workingDirectory.trans first.workingDirectory
  directories place found := second.directories place (first.directories place found)
  others place out := by
    rcases first.others place out with same | ⟨missing, made⟩
    · rw [← same]
      exact second.others place out
    · exact .inr ⟨missing, second.directories place made⟩

theorem Alters.insert (absent : tree.find? place ≠ some .directory) (entry : FileEntry) :
    Alters {place} tree (tree.insert place entry) := by
  have inner := isRoot_of_find?_ne absent
  refine ⟨rfl, fun other found => ?_, fun other out => .inl ?_⟩
  · rw [find?_insert inner, if_neg (by rintro rfl; exact absent found), found]
  · rw [find?_insert inner, if_neg (show other ≠ place from out)]

theorem Alters.erase (absent : tree.find? place ≠ some .directory) :
    Alters {place} tree (tree.erase place) := by
  have inner := isRoot_of_find?_ne absent
  refine ⟨rfl, fun other found => ?_, fun other out => .inl ?_⟩
  · rw [find?_erase inner, if_neg (by rintro rfl; exact absent found), found]
  · rw [find?_erase inner, if_neg (show other ≠ place from out)]

/-- Making a directory where nothing is concerns no place. -/
theorem Alters.insertDirectory (absent : tree.find? place = none) :
    Alters ∅ tree (tree.insert place .directory) := by
  have inner : place.isRoot = false := isRoot_of_find?_ne (by rw [absent]; simp)
  refine ⟨rfl, fun other found => ?_, fun other _ => ?_⟩
  · rw [find?_insert inner]
    split
    · rfl
    · exact found
  · rw [find?_insert inner]
    by_cases same : other = place
    · exact .inr ⟨same ▸ absent, if_pos same⟩
    · exact .inl (if_neg same)

theorem alters_makeAlong (place : FilePath) (steps : List (List String)) :
    Alters ∅ tree (tree.makeAlong place steps).2 := by
  induction steps generalizing tree place with
  | nil => exact .refl ∅ tree
  | cons step rest ih =>
    unfold makeAlong
    cases followed : tree.follow place step with
    | error error => exact .refl ∅ tree
    | ok last =>
      cases found : tree.find? last with
      | none =>
        simp only [found]
        exact (Alters.insertDirectory found).trans (ih last)
      | some entry =>
        simp only [found]
        cases entry with
        | directory => exact ih last
        | file content => exact .refl ∅ tree

theorem alters_makeDirectories (directory : String) :
    Alters ∅ tree (tree.makeDirectories directory).2 := by
  unfold makeDirectories
  split
  · exact alters_makeAlong _ _
  · exact alters_makeAlong _ _
  · exact .refl ∅ tree

theorem Alters.placeOf (alters : Alters places before after) (directory : String) :
    after.placeOf directory = before.placeOf directory := by
  rw [FileTree.placeOf, FileTree.placeOf, start, start, alters.workingDirectory]

theorem Alters.follow (alters : Alters places before after) {names : List String}
    {last : FilePath} (followed : before.follow place names = .ok last) :
    after.follow place names = .ok last := by
  induction names generalizing place with
  | nil => exact followed
  | cons name names ih =>
    obtain ⟨entered, fits, rest⟩ := follow_cons_eq_ok_iff.mp followed
    exact follow_cons_eq_ok_iff.mpr ⟨alters.directories place entered, fits, ih rest⟩

theorem Alters.reaches (alters : Alters places before after) (reaches : before.Reaches directory) :
    after.Reaches directory := by
  have place := alters.placeOf directory
  constructor
  · have followed := alters.follow reaches.followed
    rwa [place, FileTree.start, alters.workingDirectory]
  · rw [place]
    exact alters.directories _ reaches.entered

/-- A directory that can be entered is there already, with all above it. -/
theorem makeAlong_of_follow {steps : List (List String)} {last : FilePath}
    (followed : tree.follow place steps.flatten = .ok last)
    (entered : tree.find? last = some .directory) :
    tree.makeAlong place steps = (.ok (), tree) := by
  induction steps generalizing place with
  | nil => rfl
  | cons step rest ih =>
    rw [List.flatten_cons, follow_append] at followed
    obtain ⟨middle, first, second⟩ := followed
    -- Either further names are followed from here, or this is the end.
    have there : tree.find? middle = some .directory := by
      cases names : rest.flatten with
      | nil =>
        rw [names] at second
        cases second
        exact entered
      | cons name others =>
        rw [names] at second
        exact (follow_cons_eq_ok_iff.mp second).1
    rw [makeAlong, first]
    simp only [there]
    exact ih second

theorem makeDirectories_of_reaches (plain : Path.IsName name) (fits : Fits directory name)
    (reaches : tree.Reaches directory) :
    tree.makeDirectories directory = (.ok (), tree) := by
  have along : tree.makeAlong (tree.start directory) (Path.steps (Path.names directory)) =
      (.ok (), tree) :=
    makeAlong_of_follow (by rw [Path.flatten_steps]; exact reaches.followed) reaches.entered
  obtain ⟨between, joined⟩ := Path.exists_join directory plain
  unfold makeDirectories
  by_cases empty : directory = ""
  · have missing : tree.walk directory = .error .notFound := by
      subst empty
      rfl
    rw [missing]
    exact along
  · -- The path of the directory begins the path of what is in it, so it is no more refused.
    have walked : tree.walk directory = .ok (tree.placeOf directory) := by
      have valid := fits.valid
      have short := fits.path
      rw [joined] at valid short
      simp only [String.toList_append, List.mem_append, not_or] at valid
      simp only [String.utf8ByteSize_append] at short
      exact walk_eq_ok_iff.mpr ⟨valid.1.1, empty, by omega, reaches.followed⟩
    rw [walked]
    exact along

end FileTree

end CommandSynthesis
