import CommandSynthesis.Proofs.Store.Frame

set_option autoImplicit false

/-!
# Keys in view

The file of a key can be there and yet out of reach, when the directory of the store cannot be
entered; a write then makes the way to it. A key is in view when its text is read as its file has
it. It stays so, and its text is changed by no call on the file of another key, and by no call that
fails.
-/

namespace CommandSynthesis

namespace FileStore

open FileTree

variable {store before after : FileStore} {key other text : String} {places : Set FilePath}

theorem get?_eq_none (absent : store.textAt key = none) : Store.get? store key = none := by
  refine Option.eq_none_iff_forall_ne_some.mpr fun text got => ?_
  cases absent.symm.trans (get?_eq_some_iff.mp got).2

/-- The text of a key is read as its file has it. -/
def InView (store : FileStore) (key : String) : Prop :=
  Store.get? store key = store.textAt key

/-- The text in the file of a key is as it was, and within reach where it was so. -/
structure Spares (key : String) (before after : FileStore) : Prop where
  directory : after.directory = before.directory
  reaches : before.tree.Reaches before.directory → after.tree.Reaches after.directory
  textAt : after.textAt key = before.textAt key

theorem Spares.refl (key : String) (store : FileStore) : Spares key store store :=
  ⟨rfl, id, rfl⟩

theorem Spares.of_alters {tree : FileTree} (alters : Alters places store.tree tree)
    (out : store.filePlace key ∉ places) : Spares key store { store with tree } where
  directory := rfl
  reaches := alters.reaches
  textAt := by
    unfold FileStore.textAt
    rw [show FileStore.filePlace { store with tree } key = store.filePlace key by
      rw [filePlace, place, filePlace, place, alters.placeOf]]
    rcases alters.others _ out with same | ⟨missing, made⟩
    · rw [same]
    · rw [missing, made]

/-- What can be read of a spared key afterwards: what could be read before, or what was out of
reach. -/
theorem Spares.get? (spares : Spares key before after) :
    Store.get? after key = Store.get? before key ∨
      ¬ before.tree.Reaches before.directory ∧ after.tree.Reaches after.directory ∧
        Store.get? before key = none ∧ Store.get? after key = before.textAt key := by
  cases got : Store.get? before key with
  | some text =>
    obtain ⟨⟨fits, reaches⟩, there⟩ := get?_eq_some_iff.mp got
    refine .inl (get?_eq_some_iff.mpr ⟨⟨?_, spares.reaches reaches⟩, spares.textAt.trans there⟩)
    rwa [spares.directory]
  | none =>
    cases read : Store.get? after key with
    | none => exact .inl rfl
    | some text =>
      obtain ⟨⟨fits, reaches⟩, there⟩ := get?_eq_some_iff.mp read
      rw [spares.textAt] at there
      rw [spares.directory] at fits
      refine .inr ⟨fun reached => ?_, reaches, rfl, there.symm⟩
      rw [get?_eq_some_iff.mpr ⟨⟨fits, reached⟩, there⟩] at got
      cases got

theorem Spares.get?_eq (spares : Spares key before after) (inView : before.InView key) :
    Store.get? after key = Store.get? before key := by
  rcases spares.get? with same | ⟨-, -, -, uncovered⟩
  · exact same
  · exact uncovered.trans inView.symm

theorem Spares.inView (spares : Spares key before after) (inView : before.InView key) :
    after.InView key :=
  (spares.get?_eq inView).trans (inView.trans spares.textAt.symm)

/-! ## Calls on other keys -/

theorem sanitize_of_named {key : String} (named : ∀ c ∈ key.toList, isNameChar c = true) :
    sanitize key = key := by
  rw [sanitize, List.map_congr_left fun c member => if_pos (named c member), List.map_id',
    String.ofList_toList]

/-- No other key shares a file with one that holds no underscore and only characters of names. -/
theorem eq_of_sanitize {view key : String}
    (plain : key.toList.all (fun c => isNameChar c && c != '_') = true)
    (same : sanitize view = sanitize key) : view = key := by
  have plain : ∀ c ∈ key.toList, isNameChar c = true ∧ c ≠ '_' := by simpa using plain
  rw [sanitize_of_named fun c member => (plain c member).1] at same
  -- A character of the other key that is replaced would leave an underscore.
  have named : ∀ c ∈ view.toList, isNameChar c = true := by
    intro c member
    refine Classical.byContradiction fun other => ?_
    have left : '_' ∈ (sanitize view).toList := by
      rw [sanitize, String.toList_ofList]
      exact List.mem_map.2 ⟨c, member, if_neg other⟩
    exact (plain '_' (same ▸ left)).2 rfl
  exact (sanitize_of_named named).symm.trans same

theorem Changes.spares {keys : Set String} (changes : Changes keys before after)
    (apart : ∀ key ∈ keys, sanitize other ≠ sanitize key) : Spares other before after := by
  obtain ⟨directory, tree⟩ := after
  obtain rfl : directory = before.directory := changes.directory
  exact .of_alters changes.alters (filePlace_notMem apart)

theorem spares_write (different : sanitize other ≠ sanitize key) (store : FileStore)
    (text : String) : Spares other store ((write key text).perform store).2 :=
  (changes_write (Set.mem_singleton key) text).spares fun _ same => same ▸ different

theorem spares_delete (different : sanitize other ≠ sanitize key) (store : FileStore) :
    Spares other store ((delete key).perform store).2 :=
  (changes_delete (Set.mem_singleton key)).spares fun _ same => same ▸ different

/-! ## Calls that fail -/

theorem spares_of_write_failed {failure : Failure}
    (failed : (write key text).perform store = (.error failure, after)) (other : String) :
    Spares other store after := by
  have writing := perform_write store key text
  rw [failed] at writing
  cases writing with
  | failed _ alters =>
    exact .of_alters alters fun same => store.temporaryPlace_ne_filePlace key other same.symm

theorem eq_of_delete_failed {failure : Failure}
    (failed : (delete key).perform store = (.error failure, after)) : after = store := by
  have deleting := perform_delete store key
  rw [failed] at deleting
  cases deleting
  rfl

/-! ## Calls that succeed -/

theorem get?_of_write_done (written : (write key text).perform store = (.ok (), after))
    (same : sanitize other = sanitize key) :
    Store.get? after other = some text ∧ after.InView other := by
  have writing := perform_write store key text
  rw [written] at writing
  cases writing with
  | @done made making admits =>
    have there : (FileStore.deposit ⟨store.directory, made⟩ key text).textAt other = some text := by
      refine textAt_eq_some_iff.mpr ((find?_deposit admits _).trans (if_pos ?_))
      exact filePlace_inj.mpr same
    have got : Store.get? (FileStore.deposit ⟨store.directory, made⟩ key text) other =
        some text := by
      refine get?_eq_some_iff.mpr ⟨⟨?_, ?_⟩, there⟩
      · rw [fileName_inj.mpr same]
        exact admits.fileFits
      · exact (alters_deposit admits text).reaches admits.reaches
    exact ⟨got, got.trans there.symm⟩

theorem get?_congr (same : sanitize other = sanitize key) (store : FileStore) :
    Store.get? store other = Store.get? store key := by
  have got : ∀ key, Store.get? store key = FileStore.get? store key := fun _ => rfl
  rw [got, got, FileStore.get?, FileStore.get?, pathFor, pathFor, fileName_inj.mpr same]

theorem get?_of_delete_done (deleted : (delete key).perform store = (.ok (), after))
    (same : sanitize other = sanitize key) (inView : store.InView other) :
    Store.get? after other = none ∧ after.InView other := by
  have deleting := perform_delete store key
  rw [deleted] at deleting
  cases deleting with
  | missing unread =>
    rw [← get?_congr same] at unread
    exact ⟨unread, inView⟩
  | @erased content reaches found =>
    have free : store.tree.find? (store.filePlace key) ≠ some .directory := by
      rw [found]
      simp
    have gone : FileStore.textAt ⟨store.directory, store.tree.erase (store.filePlace key)⟩ other =
        none := by
      refine Option.eq_none_iff_forall_ne_some.mpr fun text there => ?_
      have left : (store.tree.erase (store.filePlace key)).find? (store.filePlace other) = _ :=
        textAt_eq_some_iff.mp there
      rw [find?_erase (isRoot_of_find?_ne free), if_pos (filePlace_inj.mpr same)] at left
      cases left
    exact ⟨get?_eq_none gone, (get?_eq_none gone).trans gone.symm⟩

/-! ## The texts in view -/

variable {keys views : Set String}

/-- Some keys are in view. -/
def Presents (views : Set String) (store : FileStore) : Prop :=
  ∀ view ∈ views, store.InView view

theorem Presents.failed {failure : Failure} {texts : String → Option String}
    (presents : before.Presents views) (spares : ∀ key, Spares key before after) :
    Store.SettlesOn views (Presents views) before texts (.error failure, after) :=
  .failed (fun view viewed => (spares view).inView (presents view viewed))
    fun view viewed => (spares view).get?_eq (presents view viewed)

theorem Presents.done {text : Option String} (presents : before.Presents views)
    (apart : ∀ view ∈ views, sanitize view = sanitize key → view = key)
    (settled : ∀ view ∈ views, sanitize view = sanitize key →
      Store.get? after view = text ∧ after.InView view)
    (spares : ∀ other, sanitize other ≠ sanitize key → Spares other before after) :
    Store.SettlesOn views (Presents views) before
      (Function.update (Store.get? before) key text) (.ok (), after) := by
  have all : ∀ view ∈ views, Store.get? after view =
      Function.update (Store.get? before) key text view ∧ after.InView view := by
    intro view viewed
    by_cases file : sanitize view = sanitize key
    · obtain rfl := apart view viewed file
      rw [Function.update_self]
      exact settled view viewed rfl
    · have different : view ≠ key := fun chosen => file (chosen ▸ rfl)
      have spared := spares view file
      rw [Function.update_of_ne different]
      exact ⟨spared.get?_eq (presents view viewed), spared.inView (presents view viewed)⟩
  exact .done (fun view viewed => (all view viewed).2) fun view viewed => (all view viewed).1

/-- Calls on keys are atomic as to the keys in view if different ones among them have different
files. -/
theorem atomicOn
    (apart : ∀ key ∈ keys, ∀ view ∈ views, sanitize view = sanitize key → view = key) :
    Store.AtomicOn keys views (Presents views) where
  set {store} presents key mem text := by
    change Store.SettlesOn _ _ _ _ ((write key text).perform store)
    have spares : ∀ other, sanitize other ≠ sanitize key → _ := fun other different =>
      spares_write different store text
    cases written : (write key text).perform store with
    | mk outcome after =>
    rw [written] at spares
    cases outcome with
    | error failure => exact presents.failed (spares_of_write_failed written)
    | ok =>
      exact presents.done (apart key mem) (fun _ _ file => get?_of_write_done written file) spares
  remove {store} presents key mem := by
    change Store.SettlesOn _ _ _ _ ((delete key).perform store)
    have spares : ∀ other, sanitize other ≠ sanitize key → _ := fun other different =>
      spares_delete different store
    cases deleted : (delete key).perform store with
    | mk outcome after =>
    rw [deleted] at spares
    cases outcome with
    | error failure =>
      exact presents.failed fun other => eq_of_delete_failed deleted ▸ .refl other store
    | ok =>
      refine presents.done (apart key mem) (fun view viewed file => ?_) spares
      exact get?_of_delete_done deleted file (presents view viewed)

/-! ## Empty directories -/

/-- Nothing has a name in the directory, which need not be there itself. -/
def Fresh (store : FileStore) : Prop :=
  ∀ name, Path.IsName name → store.tree.find? (store.place.child name) = none

theorem Fresh.textAt (fresh : store.Fresh) (key : String) : store.textAt key = none := by
  rw [FileStore.textAt, filePlace, fresh _ (isName_fileName key)]

theorem Fresh.inView (fresh : store.Fresh) (key : String) : store.InView key :=
  (get?_eq_none (fresh.textAt key)).trans (fresh.textAt key).symm

theorem Fresh.presents (fresh : store.Fresh) (views : Set String) : store.Presents views :=
  fun view _ => fresh.inView view

/-- A directory that is not there yet, nor is anything else. -/
def unmade : FileStore where
  directory := "/data"
  tree := ⟨[], .root⟩

theorem fresh_unmade : unmade.Fresh := by
  intro name _
  rw [FileTree.find?, FilePath.isRoot_child]
  rfl

end FileStore

end CommandSynthesis
