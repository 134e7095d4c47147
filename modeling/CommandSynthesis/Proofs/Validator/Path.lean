import CommandSynthesis.Proofs.Store.Tree
import CommandSynthesis.Validator.Checks
import Mathlib.Data.List.Induction

set_option autoImplicit false

/-!
# Where accepted paths lead

The check of a path looks at the characters with which it begins, not at the place to which it
leads. An accepted path is absolute, and leads below a denied root exactly when it takes a detour:
it stays at the root or comes back to it before it goes to the denied root by its name.
-/

namespace CommandSynthesis

/-! ## Lexical normal forms -/

namespace Path

/-- What stands between the slashes of a path, and before and behind them. -/
def components (path : String) : List String :=
  (path.toList.splitOn '/').map String.ofList

/-- Where a component leads from the place at the end of some names. -/
def move (place : List String) (component : String) : List String :=
  if component = "" ∨ component = "." then place
  else if component = ".." then place.dropLast
  else place ++ [component]

/-- The names on the way from the root to where an absolute path leads. -/
def normalForm (path : String) : List String :=
  (components path).foldl move []

theorem move_empty (place : List String) : move place "" = place := if_pos (.inl rfl)

theorem foldl_move_filter (place names : List String) :
    (names.filter fun name => name ≠ "").foldl move place = names.foldl move place := by
  rw [List.foldl_filter]
  congr 1
  funext place name
  by_cases empty : name = ""
  · rw [empty, move_empty]
    rfl
  · simp [empty]

theorem normalForm_eq_foldl_names (path : String) :
    normalForm path = (names path).foldl move [] :=
  (foldl_move_filter [] (components path)).symm

theorem no_slash_of_mem_splitOn {text part : List Char} (member : part ∈ text.splitOn '/') :
    '/' ∉ part := by
  induction text generalizing part with
  | nil =>
    rw [List.splitOn_nil, List.mem_singleton] at member
    rw [member]
    exact List.not_mem_nil
  | cons c text ih =>
    rw [List.splitOn_cons_eq_if_modifyHead] at member
    cases parts : text.splitOn '/' with
    | nil => exact absurd parts (List.splitOn_ne_nil _ _)
    | cons first rest =>
      rw [parts] at member ih
      split at member
      · rcases List.mem_cons.1 member with rfl | member
        · exact List.not_mem_nil
        · exact ih member
      · next other =>
        rcases List.mem_cons.1 member with rfl | member
        · intro slash
          rcases List.mem_cons.1 slash with same | slash
          · exact other (by rw [← same, beq_self_eq_true])
          · exact ih List.mem_cons_self slash
        · exact ih (List.mem_cons_of_mem first member)

theorem no_slash_of_mem_names {path name : String} (member : name ∈ names path) :
    '/' ∉ name.toList := by
  obtain ⟨found, -⟩ := List.mem_filter.1 member
  obtain ⟨part, split, rfl⟩ := List.mem_map.1 found
  rw [String.toList_ofList]
  exact no_slash_of_mem_splitOn split

theorem ofNames_dropLast {place : List String} (plain : ∀ name ∈ place, '/' ∉ name.toList) :
    FilePath.ofNames place.dropLast = (FilePath.ofNames place).parent := by
  rcases List.eq_nil_or_concat place with rfl | ⟨front, last, rfl⟩
  · rfl
  · rw [List.concat_eq_append] at plain ⊢
    have last := plain last (List.mem_append_right front (List.mem_singleton_self last))
    rw [List.dropLast_concat, FilePath.ofNames, FilePath.ofNames, List.foldl_append]
    exact (FilePath.parent_child last).symm

/-- Names lead to the same place in their normal form. -/
theorem ofNames_foldl_move {place names : List String}
    (plain : ∀ name ∈ place, '/' ∉ name.toList) (filled : ∀ name ∈ names, name ≠ "")
    (others : ∀ name ∈ names, '/' ∉ name.toList) :
    FilePath.ofNames (names.foldl move place) = (FilePath.ofNames place).along names := by
  induction names generalizing place with
  | nil => rfl
  | cons name names ih =>
    obtain ⟨nonempty, filled⟩ := List.forall_mem_cons.1 filled
    obtain ⟨last, others⟩ := List.forall_mem_cons.1 others
    rw [List.foldl_cons, FilePath.along, List.foldl_cons, FilePath.step, move]
    by_cases dot : name = "."
    · rw [if_pos (.inr dot), if_pos dot]
      exact ih plain filled others
    rw [if_neg (not_or.2 ⟨nonempty, dot⟩), if_neg dot]
    by_cases dots : name = ".."
    · rw [if_pos dots, if_pos dots, ← ofNames_dropLast plain]
      exact ih (fun other member => plain other ((List.dropLast_subset place) member)) filled others
    · rw [if_neg dots, if_neg dots]
      have child : (FilePath.ofNames place).child name = FilePath.ofNames (place ++ [name]) := by
        rw [FilePath.ofNames, FilePath.ofNames, List.foldl_append]
        rfl
      rw [child]
      refine ih (fun other member => ?_) filled others
      rcases List.mem_append.1 member with member | member
      · exact plain other member
      · rwa [List.mem_singleton.1 member]

/-- An absolute path that can be followed leads to the place that its normal form names. -/
theorem eq_ofNames_of_walk {tree : FileTree} {path : String} {place : FilePath}
    (absolute : isAbsolute path = true) (walked : tree.walk path = .ok place) :
    place = .ofNames (normalForm path) := by
  obtain ⟨-, -, -, followed⟩ := FileTree.walk_eq_ok_iff.1 walked
  rw [FileTree.start, if_pos absolute] at followed
  have filled : ∀ name ∈ names path, name ≠ "" := by
    intro name member
    simpa using (List.mem_filter.1 member).2
  have same := ofNames_foldl_move (List.forall_mem_nil _) filled fun _ => no_slash_of_mem_names
  rw [normalForm_eq_foldl_names, same]
  exact FileTree.eq_along_of_follow followed

/-! ## Components that lead to a name -/

/-- The components do not lead out of what has the name at the root. -/
def StaysIn (name : String) (components : List String) : Prop :=
  ∀ front, front <+: components → front.foldl move [name] ≠ []

theorem head?_move {place : List String} {name component : String}
    (head : place.head? = some name) (stays : move place component ≠ []) :
    (move place component).head? = some name := by
  obtain ⟨rest, rfl⟩ := List.head?_eq_some_iff.1 head
  unfold move at stays ⊢
  split
  · exact head
  · next other =>
    rw [if_neg other] at stays
    split
    · next dots =>
      rw [if_pos dots] at stays
      cases rest with
      | nil => exact absurd rfl stays
      | cons second rest => rfl
    · rfl

theorem StaysIn.head? {name : String} {components : List String}
    (stays : StaysIn name components) : (components.foldl move [name]).head? = some name := by
  induction components using List.reverseRecOn with
  | nil => rfl
  | append_singleton front last ih =>
    have before : StaysIn name front := fun other start =>
      stays other (start.trans (List.prefix_append front [last]))
    have all := stays (front ++ [last]) (List.prefix_refl _)
    rw [List.foldl_append] at all ⊢
    exact head?_move (ih before) all

theorem StaysIn.push {name last : String} {components : List String}
    (stays : StaysIn name components)
    (inside : (components ++ [last]).foldl move [name] ≠ []) :
    StaysIn name (components ++ [last]) := by
  intro front start
  rcases List.prefix_concat_iff.1 start with rfl | start
  · exact inside
  · exact stays front start

/-- A component that is neither empty nor made of dots only leads to something of its name. -/
def IsPlain (name : String) : Prop := name ≠ "" ∧ name ≠ "." ∧ name ≠ ".."

theorem IsPlain.move {name : String} (plain : IsPlain name) (place : List String) :
    move place name = place ++ [name] := by
  obtain ⟨filled, dot, dots⟩ := plain
  rw [Path.move, if_neg (not_or.2 ⟨filled, dot⟩), if_neg dots]

/-- A normal form begins with a name exactly when this name is gone to at the root and not left
again. -/
theorem head?_foldl_move_iff {name : String} (plain : IsPlain name) {components : List String} :
    (components.foldl move []).head? = some name ↔
      ∃ before after, components = before ++ name :: after ∧ before.foldl move [] = [] ∧
        StaysIn name after := by
  constructor
  · intro head
    induction components using List.reverseRecOn with
    | nil => cases head
    | append_singleton front last ih =>
      rw [List.foldl_append, List.foldl_cons, List.foldl_nil] at head
      by_cases already : (front.foldl move []).head? = some name
      · obtain ⟨before, after, rfl, back, stays⟩ := ih already
        refine ⟨before, after ++ [last], by simp, back, stays.push ?_⟩
        rw [List.foldl_append, List.foldl_cons, back, plain.move] at head
        rw [List.foldl_append, List.foldl_cons, List.foldl_nil]
        intro left
        rw [List.nil_append, left] at head
        cases head
      · -- The name was not there before, so that the last component is the name at the root.
        refine ⟨front, [], ?_⟩
        cases place : front.foldl move [] with
        | nil =>
          rw [place] at head
          unfold move at head
          split at head
          · cases head
          · split at head
            · cases head
            · cases head
              refine ⟨rfl, rfl, fun other start => ?_⟩
              rw [List.prefix_nil.1 start]
              exact List.cons_ne_nil _ _
        | cons first rest =>
          rw [place] at head already
          have stays : move (first :: rest) last ≠ [] := by
            intro left
            rw [left] at head
            cases head
          rw [head?_move rfl stays] at head
          exact absurd head already
  · rintro ⟨before, after, rfl, back, stays⟩
    rw [List.foldl_append, back, List.foldl_cons, plain.move]
    exact stays.head?

theorem components_of_isAbsolute {path : String} (absolute : isAbsolute path = true) :
    ∃ tail, path.toList = '/' :: tail ∧
      components path = "" :: (tail.splitOn '/').map String.ofList := by
  have head : path.toList.head? = some '/' := by simpa [isAbsolute] using absolute
  obtain ⟨tail, split⟩ := List.head?_eq_some_iff.1 head
  refine ⟨tail, split, ?_⟩
  rw [components, split, List.splitOn_cons_eq_if_modifyHead, if_pos (beq_self_eq_true _)]
  rfl

theorem prefix_of_splitOn {text first : List Char} {rest : List (List Char)}
    (split : text.splitOn '/' = first :: rest) : first <+: text := by
  have joined : List.intercalate ['/'] (text.splitOn '/') = text := List.intercalate_splitOn '/'
  rw [split] at joined
  cases rest with
  | nil =>
    rw [List.intercalate_singleton] at joined
    exact joined ▸ List.prefix_refl first
  | cons second rest =>
    rw [List.intercalate_cons_cons, List.append_assoc] at joined
    exact ⟨_, joined⟩

end Path

/-! ## Accepted paths -/

namespace Check

open CommandSynthesis.Path

/-- The path goes to a denied root by its name, but takes some way from the root to the root
before. -/
def TakesDetour (path : String) : Prop :=
  ∃ name before after, "/" ++ name ∈ deniedRoots ∧
    components path = "" :: (before ++ name :: after) ∧
    before ≠ [] ∧ before.foldl move [] = [] ∧ StaysIn name after

theorem path_valid_iff {path : String} :
    (Check.path path).valid = true ↔
      Text.isBlankText path = false ∧ isAbsolute path = true ∧
        ∀ root ∈ deniedRoots, ¬ root.toList <+: path.toList := by
  have begins : ['/'].isPrefixOf path.toList = isAbsolute path := by
    rw [isAbsolute]
    cases path.toList with
    | nil => rfl
    | cons c rest => simp [List.isPrefixOf, Bool.beq_comm]
  have denied : (deniedRoots.any fun root => root.toList.isPrefixOf path.toList) = true ↔
      ∃ root ∈ deniedRoots, root.toList <+: path.toList := by
    simp only [List.any_eq_true, List.isPrefixOf_iff_prefix]
  unfold Check.path
  rw [begins]
  cases Text.isBlankText path with
  | true => simp [Verdict.refuse]
  | false =>
    cases isAbsolute path with
    | false => simp [Verdict.refuse]
    | true =>
      by_cases found : ∃ root ∈ deniedRoots, root.toList <+: path.toList
      · rw [if_neg Bool.false_ne_true, if_neg (not_not.2 rfl), if_pos (denied.2 found)]
        constructor
        · intro impossible
          cases impossible
        · rintro ⟨-, -, apart⟩
          obtain ⟨root, member, start⟩ := found
          exact absurd start (apart root member)
      · rw [if_neg Bool.false_ne_true, if_neg (not_not.2 rfl), if_neg (mt denied.1 found)]
        refine ⟨fun _ => ⟨rfl, rfl, fun root member start => ?_⟩, fun _ => rfl⟩
        exact found ⟨root, member, start⟩

theorem isPlain_of_denied {name : String} (denied : "/" ++ name ∈ deniedRoots) :
    IsPlain name := by
  refine ⟨?_, ?_, ?_⟩
  all_goals
    rintro rfl
    revert denied
    decide

/-- An accepted path is absolute. In every tree it leads to the place of its normal form, and this
is below a denied root exactly when the path takes a detour. -/
theorem path_valid_leads {path : String} (accepted : (Check.path path).valid = true) :
    isAbsolute path = true ∧
      (∀ (tree : FileTree) place, tree.walk path = .ok place →
        place = .ofNames (normalForm path)) ∧
      ((∃ name, "/" ++ name ∈ deniedRoots ∧ (normalForm path).head? = some name) ↔
        TakesDetour path) := by
  obtain ⟨-, absolute, apart⟩ := path_valid_iff.1 accepted
  obtain ⟨tail, chars, split⟩ := components_of_isAbsolute absolute
  refine ⟨absolute, fun tree place walked => eq_ofNames_of_walk absolute walked, ?_⟩
  constructor
  · rintro ⟨name, denied, head⟩
    have plain := isPlain_of_denied denied
    obtain ⟨before, after, parts, back, stays⟩ := (head?_foldl_move_iff plain).1 head
    cases before with
    | nil =>
      -- Nothing stands before the first slash.
      rw [split] at parts
      exact absurd (List.cons.inj parts).1.symm plain.1
    | cons first before =>
      rw [split, List.cons_append] at parts
      obtain ⟨rfl, others⟩ := List.cons.inj parts
      rw [List.foldl_cons, move_empty] at back
      refine ⟨name, before, after, denied, by rw [split, others], ?_, back, stays⟩
      rintro rfl
      -- The path would begin with the denied root.
      cases pieces : tail.splitOn '/' with
      | nil => exact absurd pieces (List.splitOn_ne_nil _ _)
      | cons piece rest =>
        rw [pieces] at others
        have same : piece = name.toList := by
          rw [← (List.cons.inj others).1, String.toList_ofList]
        refine apart _ denied ?_
        rw [String.toList_append, chars, ← same]
        exact List.cons_prefix_cons.2 ⟨rfl, prefix_of_splitOn pieces⟩
  · rintro ⟨name, before, after, denied, parts, -, back, stays⟩
    refine ⟨name, denied, (head?_foldl_move_iff (isPlain_of_denied denied)).2 ?_⟩
    refine ⟨"" :: before, after, by rw [parts, List.cons_append], ?_, stays⟩
    rw [List.foldl_cons, move_empty, back]

theorem path_valid_leads_back :
    (Check.path "/var/../proc/1").valid = true ∧ isAbsolute "/var/../proc/1" = true ∧
      TakesDetour "/var/../proc/1" := by
  have accepted : (Check.path "/var/../proc/1").valid = true := by decide +kernel
  have denied : "/" ++ "proc" ∈ deniedRoots := by decide
  obtain ⟨absolute, -, detour⟩ := path_valid_leads accepted
  exact ⟨accepted, absolute, detour.1 ⟨"proc", denied, by decide +kernel⟩⟩

/-- A path with two slashes in front is accepted and leads below a denied root. -/
theorem path_valid_doubled :
    (Check.path "//proc/version").valid = true ∧ "/proc" ∈ deniedRoots ∧
      normalForm "//proc/version" = ["proc", "version"] ∧
      FilePath.ofNames (normalForm "//proc/version") = ⟨"/proc/version"⟩ := by
  decide +kernel

end Check

end CommandSynthesis
