import CommandSynthesis.Proofs.Preferences.Composition

set_option autoImplicit false

/-!
# Favorites

What toggling an id does to any stored preferences, whatever their favorites. One mention of the id
is taken away where there are some, and one is added where there is none; the answer tells which. It
is also true of the preferences afterwards when the id was not mentioned twice. Patches and imports
may store it twice.
-/

namespace CommandSynthesis.Preferences

open StoredDocument

/-! ## Favorites as a list -/

theorem filter_erase_self (ids : List String) (id : String) :
    (ids.erase id).filter (· ≠ id) = ids.filter (· ≠ id) := by
  induction ids with
  | nil => rfl
  | cons first ids ih =>
    by_cases same : first = id
    · subst same
      rw [List.erase_cons_head, List.filter_cons_of_neg (by simp)]
    · rw [List.erase_cons_tail (by simpa using same), List.filter_cons_of_pos (by simpa using same),
        List.filter_cons_of_pos (by simpa using same), ih]

section Toggled

variable (preferences : Preferences) (id : String)

theorem favorites_toggleFavorite :
    (preferences.toggleFavorite id).favorites =
      if id ∈ preferences.favorites then preferences.favorites.erase id
      else preferences.favorites ++ [id] := by
  unfold toggleFavorite
  by_cases liked : id ∈ preferences.favorites <;> simp [liked]

theorem toggleFavorite_frame :
    preferences.toggleFavorite id =
      { preferences with favorites := (preferences.toggleFavorite id).favorites } := by
  unfold toggleFavorite
  split <;> rfl

theorem others_toggleFavorite :
    (preferences.toggleFavorite id).favorites.filter (· ≠ id) =
      preferences.favorites.filter (· ≠ id) := by
  rw [favorites_toggleFavorite]
  split
  · exact filter_erase_self _ _
  · simp

theorem count_toggleFavorite :
    (preferences.toggleFavorite id).favorites.count id =
      if id ∈ preferences.favorites then preferences.favorites.count id - 1 else 1 := by
  rw [favorites_toggleFavorite]
  split
  · exact List.count_erase_self
  · next missing => simp [List.count_eq_zero.2 missing]

theorem mem_toggleFavorite :
    id ∈ (preferences.toggleFavorite id).favorites ↔ preferences.favorites.count id ≠ 1 := by
  rw [← List.count_pos_iff, count_toggleFavorite]
  split
  · next liked =>
    have positive := List.count_pos_iff.2 liked
    omega
  · next missing =>
    have zero := List.count_eq_zero.2 missing
    omega

end Toggled

/-! ## Toggling in a store -/

/-- Toggling the id made the new preferences of the old ones and answered `now`. -/
structure Toggled (id : String) (old new : Preferences) (now : Bool) : Prop where
  now : now = true ↔ id ∉ old.favorites
  others : new.favorites.filter (· ≠ id) = old.favorites.filter (· ≠ id)
  count : new.favorites.count id = if id ∈ old.favorites then old.favorites.count id - 1 else 1
  frame : new = { old with favorites := new.favorites }

/-- The answer says whether the id is a favorite now, and that it was none before if it is now. -/
def Tells (id : String) (old new : Preferences) (now : Bool) : Prop :=
  (now = true ↔ id ∈ new.favorites) ∧ (id ∈ new.favorites ↔ id ∉ old.favorites)

theorem toggled_toggleFavorite (preferences : Preferences) (id : String) :
    Toggled id preferences (preferences.toggleFavorite id)
      (decide ¬ preferences.favorites.contains id = true) where
  now := by simp
  others := others_toggleFavorite preferences id
  count := count_toggleFavorite preferences id
  frame := toggleFavorite_frame preferences id

theorem tells_toggleFavorite_iff (preferences : Preferences) (id : String) :
    Tells id preferences (preferences.toggleFavorite id)
        (decide ¬ preferences.favorites.contains id = true) ↔
      preferences.favorites.count id ≤ 1 := by
  have toggled := toggled_toggleFavorite preferences id
  rw [Tells, toggled.now, mem_toggleFavorite, ← List.count_eq_zero]
  omega

section Toggle

variable {σ : Type} [Store σ] {store after : σ} {id : String}

theorem perform_toggle_ok
    (saved : (save ((load store : Preferences).toggleFavorite id)).perform store =
      (.ok (), after)) :
    (toggle id).perform store =
      (.ok (decide ¬ (load store : Preferences).favorites.contains id = true), after) := by
  unfold toggle
  rw [Action.perform_bind_ok (Action.perform_get? _ _)]
  rw [load] at saved
  rw [Action.perform_bind_ok saved]
  rfl

theorem perform_toggle_error {failure : Failure}
    (failed : (save ((load store : Preferences).toggleFavorite id)).perform store =
      (.error failure, after)) :
    (toggle id).perform store = (.error failure, after) := by
  unfold toggle
  rw [Action.perform_bind_ok (Action.perform_get? _ _)]
  rw [load] at failed
  exact Action.perform_bind_error failed _

end Toggle

/-- Toggling an id changes no text in view, or it changes the preferences as it is to do and no
other text in view. Its answer is then true of the preferences before, and it is true of those
after, the id being a favorite in just one of them, exactly when the id was not twice among them. -/
theorem perform_toggle {σ : Type} [Store σ] {views : Set String} {good : σ → Prop}
    (atomic : Store.AtomicOn {key Preferences} views good) (seen : key Preferences ∈ views)
    {store : σ} (start : good store) (id : String) :
    (∃ failure after, (toggle id).perform store = (.error failure, after) ∧
      Set.EqOn (Store.get? after) (Store.get? store) views) ∨
    ∃ now after, (toggle id).perform store = (.ok now, after) ∧
      Toggled id (load store) (load after) now ∧
      (∀ view ∈ views, view ≠ key Preferences → Store.get? after view = Store.get? store view) ∧
      (Tells id (load store) (load after) now ↔
        (load store : Preferences).favorites.count id ≤ 1) := by
  have settles := atomic.set start (key Preferences) rfl
    (StoredDocument.encode ((load store : Preferences).toggleFavorite id)).compact
  generalize saved : (Store.set (key Preferences) _).perform store = result at settles
  cases settles with
  | failed _ kept => exact .inl ⟨_, _, perform_toggle_error saved, kept⟩
  | @done after _ texts =>
    have loaded : (load after : Preferences) = (load store : Preferences).toggleFavorite id := by
      rw [load, texts seen, Function.update_self, ofText_encode]
    refine .inr ⟨_, after, perform_toggle_ok saved, ?_, fun view viewed other => ?_, ?_⟩
    · rw [loaded]
      exact toggled_toggleFavorite _ id
    · rw [texts viewed, Function.update_of_ne other]
    · rw [loaded]
      exact tells_toggleFavorite_iff _ id

/-- A favorite that is stored once is none afterwards. -/
theorem perform_toggle_liked :
    (load likingStore : Preferences).favorites = ["ping"] ∧
    ∃ now after, (toggle "ping").perform likingStore = (.ok now, after) ∧
      Toggled "ping" (load likingStore) (load after) now ∧
      Tells "ping" (load likingStore) (load after) now := by
  have liked : (load likingStore : Preferences).favorites = ["ping"] := by decide +kernel
  have atomic := MemoryStore.atomic.on {key Preferences} {key Preferences}
  have start : (fun _ : MemoryStore => True) likingStore := trivial
  refine ⟨liked, ?_⟩
  obtain ⟨_, _, failed, _⟩ | ⟨now, after, done, toggled, _, tells⟩ :=
    perform_toggle atomic rfl start "ping"
  · cases failed
  · refine ⟨now, after, done, toggled, tells.2 ?_⟩
    rw [liked]
    decide

/-- The store with the preferences written into it. -/
def storing (store : MemoryStore) (preferences : Preferences) : MemoryStore :=
  store.insert (key Preferences) (StoredDocument.encode preferences).compact

theorem load_storing (store : MemoryStore) (preferences : Preferences) :
    load (storing store preferences) = preferences := by
  rw [load, storing, (MemoryStore.writes store _ _).texts, Function.update_self, ofText_encode]

/-- An id that a patch stored twice is still a favorite when toggling it says that it is none. -/
theorem toggle_doubled :
    ∃ doubled after : MemoryStore,
      (update (.object [("favoriteUtilities", .ofStrings ["a", "a"])])).perform ⟨[]⟩ =
        (.ok ({ favorites := ["a", "a"] } : Preferences), doubled) ∧
      (toggle "a").perform doubled = (.ok false, after) ∧
      "a" ∈ (load after : Preferences).favorites := by
  have fits : patched (load (⟨[]⟩ : MemoryStore))
      (.object [("favoriteUtilities", .ofStrings ["a", "a"])]) =
        .ok ({ favorites := ["a", "a"] } : Preferences) := rfl
  have toggled : (toggle "a").perform (storing ⟨[]⟩ { favorites := ["a", "a"] }) =
      (.ok _, storing _ ((load _ : Preferences).toggleFavorite "a")) := perform_toggle_ok rfl
  rw [load_storing] at toggled
  refine ⟨_, _, perform_update_ok fits rfl, toggled, ?_⟩
  rw [load_storing]
  decide

end CommandSynthesis.Preferences
