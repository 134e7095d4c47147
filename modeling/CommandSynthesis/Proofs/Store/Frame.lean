import CommandSynthesis.Proofs.Store.Files
import CommandSynthesis.Proofs.Store.Within

set_option autoImplicit false

/-!
# What actions change in the tree

An action on some keys concerns the files of these keys and their temporary ones. All other files
keep what they hold, however the action ends. The files are those of a tree, in which each has one
place: there are no links.
-/

namespace CommandSynthesis

namespace FileTree

variable {before after : FileTree} {places : Set FilePath} {place : FilePath}

/-- What a file holds. -/
def contentAt? (tree : FileTree) (place : FilePath) : Option FileContent :=
  match tree.find? place with
  | some (.file content) => some content
  | _ => none

/-- A new directory holds nothing, as if it were not there. -/
theorem Alters.contentAt? (alters : Alters places before after) (out : place ∉ places) :
    after.contentAt? place = before.contentAt? place := by
  unfold FileTree.contentAt?
  rcases alters.others place out with same | ⟨missing, made⟩
  · rw [same]
  · rw [missing, made]

theorem contentAt?_erase (tree : FileTree) (place : FilePath) :
    (tree.erase place).contentAt? place = none := by
  unfold contentAt?
  cases root : place.isRoot with
  | true => simp [find?, root]
  | false => simp [find?_erase root]

end FileTree

namespace FileStore

open FileTree

variable {keys : Set String} {store middle after : FileStore} {key : String}

/-- The places of the files of some keys, and of their temporary files. -/
def placesOf (store : FileStore) (keys : Set String) : Set FilePath :=
  store.filePlace '' keys ∪ store.temporaryPlace '' keys

theorem temporaryPlace_mem (mem : key ∈ keys) : store.temporaryPlace key ∈ store.placesOf keys :=
  .inr (Set.mem_image_of_mem _ mem)

theorem filePlace_mem (mem : key ∈ keys) : store.filePlace key ∈ store.placesOf keys :=
  .inl (Set.mem_image_of_mem _ mem)

theorem filePlace_notMem {other : String} (apart : ∀ key ∈ keys, sanitize other ≠ sanitize key) :
    store.filePlace other ∉ store.placesOf keys := by
  intro member
  rcases member with ⟨key, mem, same⟩ | ⟨key, mem, same⟩
  · exact apart key mem (filePlace_inj.mp same.symm)
  · exact store.temporaryPlace_ne_filePlace key other same

/-- Between two states of a store, only files of some keys have changed. -/
structure Changes (keys : Set String) (store after : FileStore) : Prop where
  directory : after.directory = store.directory
  alters : Alters (store.placesOf keys) store.tree after.tree

theorem Changes.refl (keys : Set String) (store : FileStore) : Changes keys store store :=
  ⟨rfl, .refl _ _⟩

theorem Changes.place (changes : Changes keys store after) : after.place = store.place := by
  rw [FileStore.place, FileStore.place, changes.directory]
  exact changes.alters.placeOf _

theorem Changes.placesOf (changes : Changes keys store after) (others : Set String) :
    after.placesOf others = store.placesOf others := by
  have files : after.filePlace = store.filePlace := by
    funext key
    rw [filePlace, filePlace, changes.place]
  have temporary : after.temporaryPlace = store.temporaryPlace := by
    funext key
    rw [temporaryPlace, temporaryPlace, changes.place]
  rw [FileStore.placesOf, FileStore.placesOf, files, temporary]

theorem Changes.trans (first : Changes keys store middle) (second : Changes keys middle after) :
    Changes keys store after where
  directory := second.directory.trans first.directory
  alters := by
    have later := second.alters
    rw [first.placesOf] at later
    exact first.alters.trans later

theorem changes_write (mem : key ∈ keys) (text : String) :
    Changes keys store ((write key text).perform store).2 := by
  have writing := perform_write store key text
  generalize (write key text).perform store = result at writing
  cases writing with
  | @done made directories admits =>
    have making : Alters ∅ store.tree made := by
      have alters : Alters ∅ store.tree _ := alters_makeDirectories store.directory
      rwa [directories] at alters
    have first : Changes keys store { store with tree := made } :=
      ⟨rfl, making.mono (Set.empty_subset _)⟩
    refine first.trans ⟨rfl, (alters_deposit admits text).mono ?_⟩
    intro place changed
    rcases changed with rfl | rfl
    · exact temporaryPlace_mem mem
    · exact filePlace_mem mem
  | failed _ alters =>
    exact ⟨rfl, alters.mono (Set.singleton_subset_iff.mpr (temporaryPlace_mem mem))⟩

theorem changes_delete (mem : key ∈ keys) :
    Changes keys store ((delete key).perform store).2 := by
  have deleting := perform_delete store key
  generalize (delete key).perform store = result at deleting
  cases deleting with
  | erased _ found =>
    have file : store.tree.find? (store.filePlace key) ≠ some .directory := by simp [found]
    exact ⟨rfl, (Alters.erase file).mono (Set.singleton_subset_iff.mpr (filePlace_mem mem))⟩
  | missing _ => exact .refl keys store
  | failed => exact .refl keys store

/-- An action changes files of its keys alone. -/
theorem changes_perform {α : Type} {action : Action FileStore α} (within : action.Within keys)
    (store : FileStore) : Changes keys store (action.perform store).2 := by
  refine within.kept (Changes keys store) ?_ ?_ (.refl keys store)
  · intro middle changes key mem text
    exact changes.trans (changes_write mem text)
  · intro middle changes key mem
    exact changes.trans (changes_delete mem)

/-- A removal leaves the file of its key as it was, or takes it away. -/
theorem contentAt?_remove (store : FileStore) (key : String) :
    let left := ((Store.remove key).perform store).2.tree.contentAt? (store.filePlace key)
    left = store.tree.contentAt? (store.filePlace key) ∨ left = none := by
  have deleting : Deleting store key ((Store.remove key).perform store) := perform_delete store key
  generalize (Store.remove key).perform store = result at deleting
  cases deleting with
  | erased _ _ => exact .inr (FileTree.contentAt?_erase _ _)
  | missing _ => exact .inl rfl
  | failed => exact .inl rfl

end FileStore

end CommandSynthesis
