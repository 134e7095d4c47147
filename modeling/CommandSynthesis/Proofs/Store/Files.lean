import CommandSynthesis.Proofs.Store.Atomic
import CommandSynthesis.Proofs.Store.Tree

set_option autoImplicit false

/-!
# Calls on files

What a write and a removal can do to the tree, said once for each of them. A write concerns the file
of its key and the temporary one, and only the latter when it fails. So the text of a key is there
to be read until a call on the key itself succeeds, unless its file was out of reach: the directory
could not be entered, and a write made the way to it.
-/

namespace CommandSynthesis

namespace FileTree

variable {tree after : FileTree} {directory name other text : String}

theorem locate_join_cases (tree : FileTree) (directory : String) (plain : Path.IsName name) :
    (Fits directory name ∧ tree.Reaches directory) ∧
        tree.locate (Path.join directory name) = .ok ((tree.placeOf directory).child name) ∨
      ¬ (Fits directory name ∧ tree.Reaches directory) ∧
        ∃ error, tree.locate (Path.join directory name) = .error error := by
  cases located : tree.locate (Path.join directory name) with
  | ok place =>
    obtain ⟨fits, reaches, rfl⟩ := (locate_join_eq_ok_iff plain).mp located
    exact .inl ⟨⟨fits, reaches⟩, rfl⟩
  | error error =>
    refine .inr ⟨fun ⟨fits, reaches⟩ => ?_, error, rfl⟩
    rw [(locate_join_eq_ok_iff plain).mpr ⟨fits, reaches, rfl⟩] at located
    cases located

theorem readText_join_eq_ok_iff (plain : Path.IsName name) :
    tree.readText (Path.join directory name) = .ok text ↔
      (Fits directory name ∧ tree.Reaches directory) ∧
        tree.find? ((tree.placeOf directory).child name) = some (.file (.text text)) := by
  unfold readText
  rcases locate_join_cases tree directory plain with ⟨ready, located⟩ | ⟨shut, error, located⟩
  · rw [located]
    simp only [bind, Except.bind, ready, true_and]
    split <;> simp_all
  · rw [located]
    simp [bind, Except.bind, shut]

theorem writeText_join_eq_ok_iff (plain : Path.IsName name) :
    tree.writeText (Path.join directory name) text = .ok after ↔
      (Fits directory name ∧ tree.Reaches directory) ∧
        tree.find? ((tree.placeOf directory).child name) ≠ some .directory ∧
        tree.insert ((tree.placeOf directory).child name) (.file (.text text)) = after := by
  unfold writeText
  rcases locate_join_cases tree directory plain with ⟨ready, located⟩ | ⟨shut, error, located⟩
  · rw [located]
    simp only [bind, Except.bind, ready, true_and]
    split <;> simp_all
  · rw [located]
    simp [bind, Except.bind, shut]

theorem removeFile_join_eq_ok_iff (plain : Path.IsName name) :
    tree.removeFile (Path.join directory name) = .ok after ↔
      (Fits directory name ∧ tree.Reaches directory) ∧
        (∃ content, tree.find? ((tree.placeOf directory).child name) = some (.file content)) ∧
        tree.erase ((tree.placeOf directory).child name) = after := by
  unfold removeFile
  rcases locate_join_cases tree directory plain with ⟨ready, located⟩ | ⟨shut, error, located⟩
  · rw [located]
    simp only [bind, Except.bind, ready, true_and]
    split <;> simp_all
  · rw [located]
    simp [bind, Except.bind, shut]

theorem moveFile_join_eq_ok_iff (plain : Path.IsName name) (otherPlain : Path.IsName other) :
    tree.moveFile (Path.join directory name) (Path.join directory other) = .ok after ↔
      (Fits directory name ∧ tree.Reaches directory) ∧ Fits directory other ∧
        tree.find? ((tree.placeOf directory).child other) ≠ some .directory ∧
        ∃ content, tree.find? ((tree.placeOf directory).child name) = some (.file content) ∧
          (tree.erase ((tree.placeOf directory).child name)).insert
            ((tree.placeOf directory).child other) (.file content) = after := by
  unfold moveFile
  rcases locate_join_cases tree directory plain with ⟨ready, located⟩ | ⟨shut, error, located⟩
  · rcases locate_join_cases tree directory otherPlain with
      ⟨targetReady, targetLocated⟩ | ⟨shut, error, targetLocated⟩
    · rw [located, targetLocated]
      simp only [bind, Except.bind, ready, targetReady, true_and]
      cases tree.find? ((tree.placeOf directory).child name) with
      | none => simp
      | some entry =>
        cases entry with
        | directory => simp
        | file content =>
          cases tree.find? ((tree.placeOf directory).child other) with
          | none => simp
          | some target => cases target <;> simp
    · have unfit : ¬ Fits directory other := fun fits => shut ⟨fits, ready.2⟩
      rw [located, targetLocated]
      simp [bind, Except.bind, unfit]
  · rw [located]
    simp [bind, Except.bind, shut]

/-- A text can be written to the temporary file of a key, and the file moved to that of the key. -/
structure Admits (tree : FileTree) (directory key : String) : Prop where
  reaches : tree.Reaches directory
  temporaryFits : Fits directory (FileStore.temporaryName key)
  fileFits : Fits directory (FileStore.fileName key)
  temporaryFree :
    tree.find? ((tree.placeOf directory).child (FileStore.temporaryName key)) ≠ some .directory
  fileFree : tree.find? ((tree.placeOf directory).child (FileStore.fileName key)) ≠ some .directory

end FileTree

namespace FileStore

open FileTree

variable {store after : FileStore} {key other text : String}

def place (store : FileStore) : FilePath :=
  store.tree.placeOf store.directory

def filePlace (store : FileStore) (key : String) : FilePath :=
  store.place.child (fileName key)

def temporaryPlace (store : FileStore) (key : String) : FilePath :=
  store.place.child (temporaryName key)

/-- The text in the file of a key, whether or not the directory can be entered. -/
def textAt (store : FileStore) (key : String) : Option String :=
  match store.tree.find? (store.filePlace key) with
  | some (.file (.text text)) => some text
  | _ => none

theorem temporaryPlace_ne_filePlace (store : FileStore) (key other : String) :
    store.temporaryPlace key ≠ store.filePlace other := by
  rw [temporaryPlace, filePlace, Ne, FilePath.child_inj]
  exact temporaryName_ne_fileName key other

theorem filePlace_inj : store.filePlace key = store.filePlace other ↔
    sanitize key = sanitize other := by
  rw [filePlace, filePlace, FilePath.child_inj, fileName_inj]

theorem textAt_eq_some_iff :
    store.textAt key = some text ↔
      store.tree.find? (store.filePlace key) = some (.file (.text text)) := by
  unfold textAt
  split <;> simp_all

theorem get?_eq_some_iff :
    Store.get? store key = some text ↔
      (Fits store.directory (fileName key) ∧ store.tree.Reaches store.directory) ∧
        store.textAt key = some text := by
  have read : store.tree.readText (store.pathFor key) = .ok text ↔ _ :=
    readText_join_eq_ok_iff (isName_fileName key)
  rw [textAt_eq_some_iff, filePlace, place, ← read]
  have got : Store.get? store key = FileStore.get? store key := rfl
  rw [got, FileStore.get?]
  generalize store.tree.readText (store.pathFor key) = result
  cases result <;> simp [Except.toOption]

/-! ## Writes -/

theorem perform_makeDirectory (store : FileStore) :
    makeDirectory.perform store =
      (((store.tree.makeDirectories store.directory).1.mapError Failure.file),
        { store with tree := (store.tree.makeDirectories store.directory).2 }) := by
  unfold makeDirectory
  rw [Action.perform_bind_ok (Action.perform_getThe store)]
  cases store.tree.makeDirectories store.directory with
  | mk outcome tree => cases outcome <;> rfl

theorem perform_change (f : FileStore → Except FileError FileTree) (store : FileStore) :
    (change f).perform store =
      match f store with
      | .ok tree => (.ok (), { store with tree })
      | .error error => (.error (.file error), store) := by
  unfold change
  rw [Action.perform_bind_ok (Action.perform_getThe store)]
  cases f store <;> rfl

theorem perform_replaceFile_of_moved {tree : FileTree}
    (moved : store.tree.moveFile (store.temporaryPath key) (store.pathFor key) = .ok tree) :
    (replaceFile key).perform store = (.ok (), { store with tree }) := by
  unfold replaceFile
  rw [Action.perform_bind_ok (Action.perform_getThe store)]
  simp only [moved]
  rfl

/-- If the temporary file cannot take the place of the file, only the temporary one may be gone. -/
theorem perform_replaceFile_of_not_moved {error : FileError}
    (moved : store.tree.moveFile (store.temporaryPath key) (store.pathFor key) = .error error) :
    ∃ failure left,
      (replaceFile key).perform store = (.error failure, { store with tree := left }) ∧
      Alters {store.temporaryPlace key} store.tree left := by
  unfold replaceFile
  rw [Action.perform_bind_ok (Action.perform_getThe store)]
  simp only [moved]
  cases removed : store.tree.removeFile (store.temporaryPath key) with
  | error error => exact ⟨_, store.tree, rfl, .refl _ _⟩
  | ok left =>
    obtain ⟨-, ⟨content, found⟩, rfl⟩ :=
      (removeFile_join_eq_ok_iff (isName_temporaryName key)).mp removed
    refine ⟨_, _, rfl, .erase fun directory => absurd (found.symm.trans directory) (by simp)⟩

/-- The store once a text has been written to the temporary file of a key and the file moved. -/
def deposit (store : FileStore) (key text : String) : FileStore :=
  let written := store.tree.insert (store.temporaryPlace key) (.file (.text text))
  { store with
    tree := (written.erase (store.temporaryPlace key)).insert (store.filePlace key)
      (.file (.text text)) }

/-- How a write ends: with the text in the file of its key, once the directory is made; or, where
that cannot be, with a change to the temporary file alone. -/
inductive Writing (store : FileStore) (key text : String) : Except Failure Unit × FileStore → Prop
  where
  | done {made : FileTree} : store.tree.makeDirectories store.directory = (.ok (), made) →
      made.Admits store.directory key →
      Writing store key text (.ok (), ({ store with tree := made } : FileStore).deposit key text)
  | failed {failure : Failure} {left : FileTree} :
      ¬ (∃ made, store.tree.makeDirectories store.directory = (.ok (), made) ∧
        made.Admits store.directory key) →
      Alters {store.temporaryPlace key} store.tree left →
      Writing store key text (.error failure, { store with tree := left })

/-- Once its text is in the temporary file, the file of a key can be replaced if no directory is in
its place. -/
theorem moveFile_insert (reaches : store.tree.Reaches store.directory)
    (temporaryFits : Fits store.directory (temporaryName key))
    (free : store.tree.find? (store.temporaryPlace key) ≠ some .directory) (tree : FileTree) :
    (store.tree.insert (store.temporaryPlace key) (.file (.text text))).moveFile
        (store.temporaryPath key) (store.pathFor key) = .ok tree ↔
      store.tree.Admits store.directory key ∧ (store.deposit key text).tree = tree := by
  have alters := Alters.insert free (.file (.text text))
  have target : (store.tree.insert (store.temporaryPlace key) (.file (.text text))).find?
      (store.filePlace key) = store.tree.find? (store.filePlace key) := by
    rw [find?_insert (isRoot_of_find?_ne free),
      if_neg (store.temporaryPlace_ne_filePlace key key).symm]
  have source : (store.tree.insert (store.temporaryPlace key) (.file (.text text))).find?
      (store.temporaryPlace key) = some (.file (.text text)) := by
    rw [find?_insert (isRoot_of_find?_ne free), if_pos rfl]
  -- So the move finds what it needs if it did before the temporary file was there.
  refine (moveFile_join_eq_ok_iff (isName_temporaryName key) (isName_fileName key)).trans ?_
  rw [alters.placeOf, show (store.tree.placeOf store.directory).child (fileName key) =
    store.filePlace key from rfl, show (store.tree.placeOf store.directory).child
    (temporaryName key) = store.temporaryPlace key from rfl, target, source]
  constructor
  · rintro ⟨-, fileFits, fileFree, content, same, moved⟩
    cases same
    exact ⟨⟨reaches, temporaryFits, fileFits, free, fileFree⟩, moved⟩
  · rintro ⟨admits, deposited⟩
    exact ⟨⟨temporaryFits, alters.reaches reaches⟩, admits.fileFits, admits.fileFree, _, rfl,
      deposited⟩

/-- What a write does once the directory is made. -/
def save (key text : String) : Action FileStore Unit := do
  change fun store => store.tree.writeText (store.temporaryPath key) text
  replaceFile key

theorem perform_save (store : FileStore) (key text : String) :
    (store.tree.Admits store.directory key ∧
      (save key text).perform store = (.ok (), store.deposit key text)) ∨
    (¬ store.tree.Admits store.directory key ∧ ∃ failure left,
      (save key text).perform store = (.error failure, { store with tree := left }) ∧
      Alters {store.temporaryPlace key} store.tree left) := by
  have changed := perform_change
    (fun store => store.tree.writeText (store.temporaryPath key) text) store
  unfold save
  cases written : store.tree.writeText (store.temporaryPath key) text with
  | error error =>
    rw [written] at changed
    refine .inr ⟨fun admits => ?_, _, _, Action.perform_bind_error changed _, .refl _ _⟩
    have possible : store.tree.writeText (store.temporaryPath key) text = .ok _ :=
      (writeText_join_eq_ok_iff (isName_temporaryName key)).mpr
        ⟨⟨admits.temporaryFits, admits.reaches⟩, admits.temporaryFree, rfl⟩
    rw [written] at possible
    cases possible
  | ok tree =>
    rw [written] at changed
    obtain ⟨⟨temporaryFits, reaches⟩, free, rfl⟩ :=
      (writeText_join_eq_ok_iff (isName_temporaryName key)).mp written
    have moves : ∀ moved, FileTree.moveFile _ _ (store.pathFor key) = .ok moved ↔ _ ∧
        (store.deposit key text).tree = moved := moveFile_insert reaches temporaryFits free
    have alters := Alters.insert free (.file (.text text))
    rw [Action.perform_bind_ok changed]
    by_cases admits : store.tree.Admits store.directory key
    · have replaced := @perform_replaceFile_of_moved ⟨store.directory, _⟩ key _
        ((moves _).mpr ⟨admits, rfl⟩)
      exact .inl ⟨admits, replaced⟩
    · refine .inr ⟨admits, ?_⟩
      cases moved : (store.tree.insert (store.temporaryPlace key) (.file (.text text))).moveFile
          (store.temporaryPath key) (store.pathFor key) with
      | ok tree => exact absurd ((moves tree).mp moved).1 admits
      | error error =>
        obtain ⟨failure, left, replaced, removes⟩ :=
          @perform_replaceFile_of_not_moved ⟨store.directory, _⟩ key error moved
        exact ⟨failure, left, replaced, alters.trans removes⟩

theorem perform_write (store : FileStore) (key text : String) :
    Writing store key text ((write key text).perform store) := by
  have tried := perform_makeDirectory store
  have making : Alters ∅ store.tree _ := alters_makeDirectories store.directory
  have split : write key text = (makeDirectory >>= fun _ => save key text) := rfl
  generalize made : store.tree.makeDirectories store.directory = result at tried making
  obtain ⟨outcome, tree⟩ := result
  rw [split]
  cases outcome with
  | error error =>
    rw [Action.perform_bind_error tried]
    refine .failed ?_ (making.mono (Set.empty_subset _))
    rintro ⟨other, same, -⟩
    rw [made] at same
    cases same
  | ok =>
    rw [Action.perform_bind_ok tried]
    rcases perform_save { store with tree } key text with
      ⟨admits, saved⟩ | ⟨refused, failure, left, saved, saving⟩
    · rw [saved]
      exact .done made admits
    · rw [saved]
      refine .failed ?_ ((making.mono (Set.empty_subset _)).trans ?_)
      · rintro ⟨other, same, admits⟩
        rw [made] at same
        cases same
        exact refused admits
      · rwa [temporaryPlace, place, making.placeOf] at saving

theorem perform_write_eq_ok_iff :
    ((write key text).perform store).1 = .ok () ↔
      ∃ made, store.tree.makeDirectories store.directory = (.ok (), made) ∧
        made.Admits store.directory key := by
  have writing := perform_write store key text
  generalize (write key text).perform store = result at writing
  cases writing with
  | done made admits => exact iff_of_true rfl ⟨_, made, admits⟩
  | failed refused _ => exact iff_of_false (by simp) refused

theorem find?_deposit (admits : store.tree.Admits store.directory key) (place : FilePath) :
    (store.deposit key text).tree.find? place =
      if place = store.filePlace key then some (.file (.text text))
      else if place = store.temporaryPlace key then none else store.tree.find? place := by
  have temporaryInner : (store.temporaryPlace key).isRoot = false :=
    isRoot_of_find?_ne admits.temporaryFree
  have fileInner : (store.filePlace key).isRoot = false := isRoot_of_find?_ne admits.fileFree
  simp only [deposit]
  rw [find?_insert fileInner, find?_erase temporaryInner,
    find?_insert temporaryInner]
  split
  · rfl
  · split <;> rfl

theorem alters_deposit (admits : store.tree.Admits store.directory key) (text : String) :
    Alters {store.temporaryPlace key, store.filePlace key} store.tree
      (store.deposit key text).tree where
  workingDirectory := rfl
  directories place found := by
    have notFile : place ≠ store.filePlace key := by
      rintro rfl
      exact admits.fileFree found
    have notTemporary : place ≠ store.temporaryPlace key := by
      rintro rfl
      exact admits.temporaryFree found
    rw [find?_deposit admits, if_neg notFile, if_neg notTemporary, found]
  others place out := by
    simp only [Set.mem_insert_iff, Set.mem_singleton_iff, not_or] at out
    rw [find?_deposit admits, if_neg out.2, if_neg out.1]
    exact .inl rfl

/-! ## Removals -/

/-- How a removal ends: without the file of its key, or with nothing done. It counts as done also
if the way to the file is missing. -/
inductive Deleting (store : FileStore) (key : String) : Except Failure Unit × FileStore → Prop
  where
  | erased {content : FileContent} : store.tree.Reaches store.directory →
      store.tree.find? (store.filePlace key) = some (.file content) →
      Deleting store key (.ok (), { store with tree := store.tree.erase (store.filePlace key) })
  | missing : Store.get? store key = none → Deleting store key (.ok (), store)
  | failed {failure : Failure} : Deleting store key (.error failure, store)

theorem perform_delete (store : FileStore) (key : String) :
    Deleting store key ((delete key).perform store) := by
  unfold delete
  rw [Action.perform_bind_ok (Action.perform_getThe store)]
  cases removed : store.tree.removeFile (store.pathFor key) with
  | ok left =>
    obtain ⟨ready, ⟨content, found⟩, rfl⟩ :=
      (removeFile_join_eq_ok_iff (isName_fileName key)).mp removed
    exact .erased ready.2 found
  | error error =>
    have unread : Store.get? store key = none := by
      cases got : Store.get? store key with
      | none => rfl
      | some text =>
        obtain ⟨ready, there⟩ := get?_eq_some_iff.mp got
        have possible : store.tree.removeFile (store.pathFor key) = .ok _ :=
          (removeFile_join_eq_ok_iff (isName_fileName key)).mpr
            ⟨ready, ⟨_, textAt_eq_some_iff.mp there⟩, rfl⟩
        rw [removed] at possible
        cases possible
    cases error
    case notFound => exact .missing unread
    all_goals exact .failed

end FileStore

end CommandSynthesis
