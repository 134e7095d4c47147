import CommandSynthesis.Proofs.Store.Views

set_option autoImplicit false

/-!
# Files that accept all writes

When each write and removal of some keys succeeds, calls on these keys leave it so: the directory
is made by the first write, and no call puts a directory in the place of a file.
-/

namespace CommandSynthesis

namespace FileTree

variable {before after : FileTree} {directory key : String} {places : Set FilePath}

theorem Admits.of_alters (admits : before.Admits directory key)
    (alters : Alters places before after)
    (directories : ∀ place, after.find? place = some .directory →
      before.find? place = some .directory) : after.Admits directory key where
  reaches := alters.reaches admits.reaches
  temporaryFits := admits.temporaryFits
  fileFits := admits.fileFits
  temporaryFree found := by
    rw [alters.placeOf] at found
    exact admits.temporaryFree (directories _ found)
  fileFree found := by
    rw [alters.placeOf] at found
    exact admits.fileFree (directories _ found)

end FileTree

namespace FileStore

open FileTree

variable {store : FileStore} {key other text : String} {made : FileTree}

/-- No action leads to another directory. -/
theorem directory_perform {α : Type} {action : Action FileStore α} {keys : Set String}
    (within : action.Within keys) (store : FileStore) :
    (action.perform store).2.directory = store.directory :=
  (changes_perform within store).directory

/-- Each write and each removal of a key succeeds. -/
structure Accepts (store : FileStore) (key : String) : Prop where
  set : ∀ text, ((Store.set key text).perform store).1 = .ok ()
  remove : ((Store.remove key).perform store).1 = .ok ()

theorem perform_delete_of_admits (admits : store.tree.Admits store.directory key) :
    ((delete key).perform store).1 = .ok () := by
  have located : store.tree.locate (store.pathFor key) = .ok (store.filePlace key) :=
    (locate_join_eq_ok_iff (isName_fileName key)).mpr ⟨admits.fileFits, admits.reaches, rfl⟩
  have free : store.tree.find? (store.filePlace key) ≠ some .directory := admits.fileFree
  unfold delete
  rw [Action.perform_bind_ok (Action.perform_getThe store), removeFile, located]
  simp only [bind, Except.bind]
  cases found : store.tree.find? (store.filePlace key) with
  | none => rfl
  | some entry =>
    cases entry with
    | file content => rfl
    | directory => exact absurd found free

theorem accepts_of_admits
    (admits : store.tree.Admits store.directory key) : store.Accepts key where
  set text := by
    have there := makeDirectories_of_reaches (isName_fileName key) admits.fileFits admits.reaches
    exact perform_write_eq_ok_iff.mpr ⟨_, there, admits⟩
  remove := perform_delete_of_admits admits

/-- Whether a text can be written does not depend on the text. -/
theorem accepts_iff : store.Accepts key ↔
    ((Store.set key "").perform store).1 = .ok () ∧
      ((Store.remove key).perform store).1 = .ok () := by
  constructor
  · intro accepts
    exact ⟨accepts.set "", accepts.remove⟩
  · rintro ⟨set, remove⟩
    have admitted := perform_write_eq_ok_iff.mp set
    exact ⟨fun text => perform_write_eq_ok_iff.mpr admitted, remove⟩

theorem Accepts.admits (accepts : store.Accepts key)
    (making : store.tree.makeDirectories store.directory = (.ok (), made)) :
    made.Admits store.directory key := by
  obtain ⟨other, same, admits⟩ := perform_write_eq_ok_iff.mp (accepts.set "")
  rw [making] at same
  cases same
  exact admits

theorem accepts_write (accepts : store.Accepts key) (others : store.Accepts other) (text : String) :
    ((write key text).perform store).2.Accepts other := by
  have done := accepts.set text
  change ((write key text).perform store).1 = _ at done
  have writing := perform_write store key text
  generalize (write key text).perform store = result at writing done
  cases writing with
  | failed _ _ => cases done
  | @done made making admits =>
    have deposits := @alters_deposit ⟨store.directory, made⟩ key admits text
    refine accepts_of_admits ((others.admits making).of_alters deposits ?_)
    intro place found
    rw [find?_deposit admits] at found
    split at found
    · cases found
    · split at found
      · cases found
      · exact found

theorem accepts_delete (others : store.Accepts other) (key : String) :
    ((delete key).perform store).2.Accepts other := by
  have deleting := perform_delete store key
  generalize (delete key).perform store = result at deleting
  cases deleting with
  | missing _ => exact others
  | failed => exact others
  | erased reaches found =>
    obtain ⟨made, making, admits⟩ := perform_write_eq_ok_iff.mp (others.set "")
    rw [makeDirectories_of_reaches (isName_fileName other) admits.fileFits reaches] at making
    cases making
    -- The directory is there and stays, and no directory takes the place of a file.
    have free : store.tree.find? (store.filePlace key) ≠ some .directory := by
      rw [found]
      simp
    refine accepts_of_admits (admits.of_alters (.erase free) ?_)
    intro place there
    rw [find?_erase (isRoot_of_find?_ne free)] at there
    split at there
    · cases there
    · exact there

/-- A store with some keys in view that accepts all writes of some keys. -/
structure Serving (keys views : Set String) (store : FileStore) : Prop where
  presents : store.Presents views
  accepts : ∀ key ∈ keys, store.Accepts key

variable {keys views : Set String}

theorem serves : Store.Serves keys (Serving keys views) where
  set serving key mem text := (serving.accepts key mem).set text
  remove serving key mem := (serving.accepts key mem).remove

theorem atomicOn_serving
    (apart : ∀ key ∈ keys, ∀ view ∈ views, sanitize view = sanitize key → view = key) :
    Store.AtomicOn keys views (Serving keys views) where
  set serving key mem text := by
    refine ((atomicOn apart).set serving.presents key mem text).imp fun presents => ?_
    exact ⟨presents, fun other called =>
      accepts_write (serving.accepts key mem) (serving.accepts other called) text⟩
  remove serving key mem := by
    refine ((atomicOn apart).remove serving.presents key mem).imp fun presents => ?_
    exact ⟨presents, fun other called => accepts_delete (serving.accepts other called) key⟩

end FileStore

end CommandSynthesis
