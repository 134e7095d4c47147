import CommandSynthesis.Store.Files

set_option autoImplicit false

/-!
# Names in a directory

A name joined to the path of a directory leads one step below it, and no further. The files of a
store, and the temporary ones, have such names; no temporary file has the name of a file.
-/

namespace CommandSynthesis

namespace Path

/-- What a single step down a tree can be called. -/
structure IsName (name : String) : Prop where
  ne_empty : name ≠ ""
  ne_dot : name ≠ "."
  ne_dots : name ≠ ".."
  no_slash : '/' ∉ name.toList

/-- A path leads to something that is directly in a directory. -/
def IsChild (directory path : String) : Prop :=
  ∃ name, IsName name ∧ isAbsolute path = isAbsolute directory ∧
    names path = names directory ++ [name]

theorem names_slash (front back : String) :
    names (front ++ "/" ++ back) = names front ++ names back := by
  have slash : (front ++ "/" ++ back).toList = front.toList ++ '/' :: back.toList := by simp
  rw [names, slash, List.splitOn_append_cons_self, List.map_append, List.filter_append]
  rfl

theorem names_of_isName {name : String} (plain : IsName name) : names name = [name] := by
  simp [names, List.splitOn_eq_singleton plain.no_slash, plain.ne_empty]

theorem not_isAbsolute_of_isName {name : String} (plain : IsName name) :
    isAbsolute name = false := by
  rw [isAbsolute]
  cases chars : name.toList with
  | nil => rfl
  | cons c rest =>
    have ne : c ≠ '/' := by
      rintro rfl
      exact plain.no_slash (by rw [chars]; exact List.mem_cons_self)
    simp [ne]

variable {directory name : String}

theorem eq_append_slash_of_getLast? (last : directory.toList.getLast? = some '/') :
    ∃ front, directory = front ++ "/" := by
  obtain ⟨front, chars⟩ := List.getLast?_eq_some_iff.mp last
  exact ⟨String.ofList front, String.toList_injective (by rw [chars]; simp)⟩

/-- However a name is joined to a directory, it stands after a slash, or alone. -/
theorem join_cases (directory : String) (plain : IsName name) :
    (directory = "" ∧ join directory name = name) ∨
      (∃ front, directory = front ++ "/" ∧ join directory name = front ++ "/" ++ name) ∨
      (directory ≠ "" ∧ join directory name = directory ++ "/" ++ name) := by
  unfold join
  rw [not_isAbsolute_of_isName plain, if_neg Bool.false_ne_true]
  by_cases empty : directory = ""
  · subst empty
    exact .inl ⟨rfl, by simp⟩
  · by_cases last : directory.toList.getLast? = some '/'
    · obtain ⟨front, rfl⟩ := eq_append_slash_of_getLast? last
      exact .inr (.inl ⟨front, rfl, by rw [if_pos (.inr last)]⟩)
    · refine .inr (.inr ⟨empty, ?_⟩)
      rw [if_neg (by simp [empty, last])]

theorem names_join (plain : IsName name) :
    names (join directory name) = names directory ++ [name] := by
  rcases join_cases directory plain with ⟨rfl, joined⟩ | ⟨front, rfl, joined⟩ | ⟨-, joined⟩
  · rw [joined, names_of_isName plain]
    rfl
  · have slashed : names (front ++ "/") = names front := by
      have bare := names_slash front ""
      rwa [String.append_empty, show names "" = [] from rfl, List.append_nil] at bare
    rw [joined, names_slash, slashed, names_of_isName plain]
  · rw [joined, names_slash, names_of_isName plain]

theorem isAbsolute_append {front : String} (start : front ≠ "") (back : String) :
    isAbsolute (front ++ back) = isAbsolute front := by
  cases chars : front.toList with
  | nil => exact absurd (String.toList_injective chars) start
  | cons c rest => simp [isAbsolute, chars]

theorem isAbsolute_join (plain : IsName name) :
    isAbsolute (join directory name) = isAbsolute directory := by
  rcases join_cases directory plain with
    ⟨rfl, joined⟩ | ⟨front, rfl, joined⟩ | ⟨start, joined⟩
  · rw [joined, not_isAbsolute_of_isName plain]
    rfl
  · have start : front ++ "/" ≠ "" := by simp
    rw [joined, isAbsolute_append start]
  · rw [joined, String.append_assoc, isAbsolute_append start]

theorem isChild_join (plain : IsName name) : IsChild directory (join directory name) :=
  ⟨name, plain, isAbsolute_join plain, names_join plain⟩

/-- The characters of a directory are among those of what is joined to it. -/
theorem exists_join (directory : String) (plain : IsName name) :
    ∃ between, join directory name = directory ++ between ++ name := by
  rcases join_cases directory plain with ⟨rfl, joined⟩ | ⟨front, rfl, joined⟩ | ⟨-, joined⟩
  · exact ⟨"", by simp [joined]⟩
  · exact ⟨"", by simp [joined]⟩
  · exact ⟨"/", joined⟩

theorem join_inj {other : String} (plain : IsName name) (otherPlain : IsName other) :
    join directory name = join directory other ↔ name = other := by
  constructor
  · intro same
    have names := congrArg names same
    rw [names_join plain, names_join otherPlain] at names
    simpa using names
  · rintro rfl
    rfl

theorem getLast?_join (plain : IsName name) :
    (join directory name).toList.getLast? ≠ some '/' := by
  obtain ⟨between, joined⟩ := exists_join directory plain
  intro last
  rw [joined, String.toList_append, List.getLast?_append] at last
  cases lastOfName : name.toList.getLast? with
  | none =>
    exact plain.ne_empty (String.toList_injective (List.getLast?_eq_none_iff.mp lastOfName))
  | some c =>
    rw [lastOfName] at last
    cases last
    exact plain.no_slash (List.mem_of_getLast? lastOfName)

theorem join_ne_empty (plain : IsName name) : join directory name ≠ "" := by
  intro empty
  have none : names (join directory name) = names directory ++ [name] := names_join plain
  rw [empty] at none
  simp [names] at none

end Path

namespace FileStore

theorem all_isNameChar_sanitize (key : String) : (sanitize key).toList.all isNameChar = true := by
  simp only [sanitize, String.toList_ofList, List.all_eq_true, List.mem_map]
  rintro _ ⟨original, -, rfl⟩
  split
  · assumption
  · rfl

/-- A text of name characters with an extension after it is a name. -/
theorem isName_append {front extension : String} (chars : front.toList.all isNameChar = true)
    (extensionChars : extension.toList.all isNameChar = true) (long : 3 ≤ extension.length) :
    Path.IsName (front ++ extension) where
  ne_empty empty := by
    have size := congrArg String.length empty
    simp only [String.length_append, String.length_empty] at size
    omega
  ne_dot dot := by
    have size := congrArg String.length dot
    rw [String.length_append, show ".".length = 1 from rfl] at size
    omega
  ne_dots dots := by
    have size := congrArg String.length dots
    rw [String.length_append, show "..".length = 2 from rfl] at size
    omega
  no_slash slash := by
    rw [String.toList_append, List.mem_append] at slash
    have name : isNameChar '/' = true :=
      slash.elim (List.all_eq_true.mp chars '/') (List.all_eq_true.mp extensionChars '/')
    cases name

theorem isName_fileName (key : String) : Path.IsName (fileName key) :=
  isName_append (all_isNameChar_sanitize key) rfl (by decide)

theorem isName_temporaryName (key : String) : Path.IsName (temporaryName key) := by
  unfold temporaryName
  split
  · exact isName_append rfl rfl (by decide)
  · exact isName_append (all_isNameChar_sanitize key) rfl (by decide)

/-- The names of files end otherwise than those of temporary files. -/
theorem temporaryName_ne_fileName (key other : String) : temporaryName key ≠ fileName other := by
  intro same
  have last := congrArg (fun name : String => name.toList.getLast?) same
  simp [temporaryName, fileName, List.getLast?_append] at last

theorem fileName_inj {key other : String} : fileName key = fileName other ↔
    sanitize key = sanitize other := by
  simp [fileName]

theorem temporaryPath_ne_pathFor (store : FileStore) (key other : String) :
    store.temporaryPath key ≠ store.pathFor other := by
  rw [temporaryPath, pathFor, Ne, Path.join_inj (isName_temporaryName key) (isName_fileName other)]
  exact temporaryName_ne_fileName key other

end FileStore

end CommandSynthesis
