import CommandSynthesis.Proofs.Store.Views

set_option autoImplicit false

/-!
# Files as a map

As long as its calls on files succeed, a store in files answers as a store in memory whose keys are
the names of the files. A write that fails is not seen, save for a key that was out of reach. This
is said of all trees, and trees have no links and no permissions: with links two names can lead to
one file.
-/

namespace CommandSynthesis

namespace Store

inductive Request where
  | get (key : String)
  | set (key text : String)
  | remove (key : String)
  deriving DecidableEq, Repr

inductive Reply where
  | text (text : Option String)
  | outcome (outcome : Except Failure Unit)
  deriving DecidableEq

/-- The reply to a request, and the store afterwards. -/
def answer {σ : Type} [Store σ] (store : σ) : Request → Reply × σ
  | .get key => (.text (get? store key), store)
  | .set key text => ((Store.set key text).perform store).map .outcome id
  | .remove key => ((Store.remove key).perform store).map .outcome id

/-- The replies to one request after another. -/
def replies {σ : Type} [Store σ] (store : σ) : List Request → List Reply
  | [] => []
  | request :: later => (answer store request).1 :: replies (answer store request).2 later

end Store

namespace FileStore

open FileTree Store

/-- A request for the key in the form in which file names hold it. -/
def sanitizeRequest : Request → Request
  | .get key => .get (sanitize key)
  | .set key text => .set (sanitize key) text
  | .remove key => .remove (sanitize key)

/-- The calls on files that a request leads to, up to the first that fails; a file to be removed
may be missing. -/
def calls (store : FileStore) : Request → Except FileError FileTree
  | .get _ => .ok store.tree
  | .set key text =>
    match store.tree.makeDirectories store.directory with
    | (.error error, _) => .error error
    | (.ok (), made) => do
      let written ← made.writeText (store.temporaryPath key) text
      written.moveFile (store.temporaryPath key) (store.pathFor key)
  | .remove key =>
    match store.tree.removeFile (store.pathFor key) with
    | .error .notFound => .ok store.tree
    | result => result

/-- No call on files fails while one request after another is met. -/
def goesOn (store : FileStore) : List Request → Bool
  | [] => true
  | request :: later => (store.calls request).isOk && goesOn (answer store request).2 later

variable {store after : FileStore} {tree : FileTree} {memory : MemoryStore} {key text : String}

theorem perform_write_of_calls (goes : store.calls (.set key text) = .ok tree) :
    (write key text).perform store = (.ok (), { store with tree }) := by
  have makes := perform_makeDirectory store
  unfold calls at goes
  generalize store.tree.makeDirectories store.directory = result at goes makes
  obtain ⟨outcome, made⟩ := result
  cases outcome with
  | error error => cases goes
  | ok =>
    have changes := perform_change
      (fun store => store.tree.writeText (store.temporaryPath key) text) ⟨store.directory, made⟩
    change (do
      let written ← made.writeText (store.temporaryPath key) text
      written.moveFile (store.temporaryPath key) (store.pathFor key)) = _ at goes
    cases writes : made.writeText (store.temporaryPath key) text with
    | error error =>
      rw [writes] at goes
      cases goes
    | ok written =>
      rw [writes] at goes
      rw [show made.writeText (temporaryPath ⟨store.directory, made⟩ key) text = _ from writes]
        at changes
      have replaces := @perform_replaceFile_of_moved ⟨store.directory, written⟩ key tree goes
      unfold write
      rw [Action.perform_bind_ok makes, Action.perform_bind_ok changes, replaces]

theorem perform_delete_of_calls (goes : store.calls (.remove key) = .ok tree) :
    (delete key).perform store = (.ok (), { store with tree }) := by
  unfold delete
  rw [Action.perform_bind_ok (Action.perform_getThe store)]
  unfold calls at goes
  cases removed : store.tree.removeFile (store.pathFor key) with
  | ok left =>
    simp only [removed] at goes
    cases goes
    rfl
  | error error =>
    simp only [removed] at goes
    cases error
    case notFound =>
      cases goes
      rfl
    all_goals cases goes

/-- A store in memory has the texts of all files under their names, and all are in view. -/
def Mirrors (memory : MemoryStore) (store : FileStore) : Prop :=
  ∀ key, store.InView key ∧ Store.get? store key = Store.get? memory (sanitize key)

theorem Fresh.mirrors (fresh : store.Fresh) : Mirrors .empty store := fun key =>
  ⟨fresh.inView key, get?_eq_none (fresh.textAt key)⟩

theorem Mirrors.answer (mirrors : Mirrors memory store) {request : Request}
    (goes : store.calls request = .ok tree) :
    (answer store request).1 = (answer memory (sanitizeRequest request)).1 ∧
      Mirrors (answer memory (sanitizeRequest request)).2 (answer store request).2 := by
  cases request with
  | get key => exact ⟨congrArg Reply.text (mirrors key).2, mirrors⟩
  | set key text =>
    have written := perform_write_of_calls goes
    have answered : Store.answer store (.set key text) = (.outcome (.ok ()), ⟨_, tree⟩) :=
      congrArg (Prod.map Reply.outcome id) written
    rw [answered]
    refine ⟨rfl, fun other => ?_⟩
    change _ ∧ _ = MemoryStore.get? (memory.insert (sanitize key) text) (sanitize other)
    rw [MemoryStore.get?_insert]
    -- Keys with one sanitized form share a file, and they are one key in memory.
    by_cases same : sanitize other = sanitize key
    · obtain ⟨got, inView⟩ := get?_of_write_done written same
      exact ⟨inView, got.trans (if_pos same).symm⟩
    · have spares := spares_write same store text
      rw [written] at spares
      obtain ⟨inView, got⟩ := mirrors other
      exact ⟨spares.inView inView, (spares.get?_eq inView).trans (got.trans (if_neg same).symm)⟩
  | remove key =>
    have deleted := perform_delete_of_calls goes
    have answered : Store.answer store (.remove key) = (.outcome (.ok ()), ⟨_, tree⟩) :=
      congrArg (Prod.map Reply.outcome id) deleted
    rw [answered]
    refine ⟨rfl, fun other => ?_⟩
    change _ ∧ _ = MemoryStore.get? (memory.erase (sanitize key)) (sanitize other)
    rw [MemoryStore.get?_erase]
    obtain ⟨inView, got⟩ := mirrors other
    by_cases same : sanitize other = sanitize key
    · obtain ⟨gone, inView⟩ := get?_of_delete_done deleted same inView
      exact ⟨inView, gone.trans (if_pos same).symm⟩
    · have spares := spares_delete same store
      rw [deleted] at spares
      exact ⟨spares.inView inView, (spares.get?_eq inView).trans (got.trans (if_neg same).symm)⟩

theorem Mirrors.replies (mirrors : Mirrors memory store) {requests : List Request}
    (goes : store.goesOn requests = true) :
    replies store requests = replies memory (requests.map sanitizeRequest) := by
  induction requests generalizing store memory with
  | nil => rfl
  | cons request later ih =>
    rw [goesOn, Bool.and_eq_true] at goes
    cases called : store.calls request with
    | error error =>
      rw [called] at goes
      cases goes.1
    | ok tree =>
      obtain ⟨first, mirrored⟩ := mirrors.answer called
      rw [List.map_cons, Store.replies, Store.replies, first, ih mirrored goes.2]

theorem get?_of_write_failed {failure : Failure}
    (failed : (Store.set key text).perform store = (.error failure, after)) (other : String) :
    Store.get? after other = Store.get? store other ∨
      ¬ store.tree.Reaches store.directory ∧ after.tree.Reaches after.directory ∧
        Store.get? store other = none ∧ Store.get? after other = store.textAt other :=
  (spares_of_write_failed failed other).get?

/-- A store in files, in a directory that is empty at first or missing, is a map from the names of
its files; these are all directly in the directory, and no temporary file has one of them. A write
that fails, whatever the tree without links and permissions is, changes no text that can be read;
but it may have made the way into the directory, and then what the files hold can be read. -/
theorem refines_memory (store : FileStore) :
    (store.Fresh → ∀ requests, store.goesOn requests = true →
      replies store requests = replies MemoryStore.empty (requests.map sanitizeRequest)) ∧
    (∀ key, Path.IsChild store.directory (store.pathFor key)) ∧
    (∀ key other, store.temporaryPath key ≠ store.pathFor other) ∧
    (∀ key text failure after, (Store.set key text).perform store = (.error failure, after) →
      ∀ other, Store.get? after other = Store.get? store other ∨
        ¬ store.tree.Reaches store.directory ∧ after.tree.Reaches after.directory ∧
          Store.get? store other = none ∧ Store.get? after other = store.textAt other) := by
  refine ⟨fun fresh requests goes => fresh.mirrors.replies goes, fun key => ?_, fun key other => ?_,
    fun key text failure after failed other => get?_of_write_failed failed other⟩
  · exact Path.isChild_join (isName_fileName key)
  · exact temporaryPath_ne_pathFor store key other

/-- The path of the directory goes up again out of one that is missing. -/
def detour : FileStore where
  directory := "/missing/../data"
  tree :=
    { entries := [(⟨"/data"⟩, .directory), (⟨"/data/k.json"⟩, .file (.text "x")),
        (⟨"/data/j.json.tmp"⟩, .directory)]
      workingDirectory := .root }

/-- A write fails, and a text can be read that could not be read before. -/
theorem get?_detour :
    Store.get? detour "k" = none ∧
      ((Store.set "j" "v").perform detour).1 = .error (.file .isADirectory) ∧
      Store.get? ((Store.set "j" "v").perform detour).2 "k" = some "x" := by
  decide +kernel

def twoKeys : List Request :=
  [.remove "a/b", .set "a/b" "1", .set "" "2", .get "a_b", .get "", .remove "a?b", .get "a/b"]

/-- In a directory that has to be made, keys with one name are one key, and the empty key is a key.
Where a write makes the way to a file, the file is read. -/
theorem refines_memory_unmade :
    unmade.Fresh ∧ unmade.goesOn twoKeys = true ∧
      replies unmade twoKeys = replies MemoryStore.empty (twoKeys.map sanitizeRequest) ∧
      ∃ failure after, (Store.set "j" "v").perform detour = (.error failure, after) ∧
        Store.get? after "k" = detour.textAt "k" := by
  have goes : unmade.goesOn twoKeys = true := by decide +kernel
  refine ⟨fresh_unmade, goes, (refines_memory unmade).1 fresh_unmade twoKeys goes, ?_⟩
  have found : ((Store.set "j" "v").perform detour).1.isOk = false ∧
      Store.get? ((Store.set "j" "v").perform detour).2 "k" ≠ Store.get? detour "k" := by
    decide +kernel
  cases performed : (Store.set "j" "v").perform detour with
  | mk outcome after =>
  rw [performed] at found
  cases outcome with
  | ok => cases found.1
  | error failure =>
    refine ⟨failure, after, rfl, ?_⟩
    rcases (refines_memory detour).2.2.2 "j" "v" failure after performed "k" with
      same | ⟨-, -, -, read⟩
    · exact absurd same found.2
    · exact read

end FileStore

end CommandSynthesis
