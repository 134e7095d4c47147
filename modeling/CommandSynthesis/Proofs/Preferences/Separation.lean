import CommandSynthesis.Proofs.History.Run
import CommandSynthesis.Proofs.Preferences.Reach

set_option autoImplicit false

/-!
# Operations side by side

The history and the configuration in one store do not meet: over a store whose writes succeed, the
operations on the one answer, and leave its documents, as if there were none on the other.
-/

namespace CommandSynthesis

inductive Component where
  | history
  | configuration
  deriving DecidableEq, Repr

/-- The keys of the documents of a component. -/
def Component.keys : Component → Set String
  | history => {History.key}
  | configuration => Preferences.documentKeys

inductive Operation where
  | append (capacity : UInt64) (entry : Synthesis)
  | clear
  | list
  | savePreferences (patch : Json)
  | saveConfig (patch : Json)
  | toggle (id : String)
  | reset
  | importText (text : String)
  | exportText
  | preferences
  | config

/-- What an operation returns when it succeeds. -/
inductive Answer where
  | done
  | commands (entries : List Synthesis)
  | preferences (preferences : Preferences)
  | config (config : SystemConfig)
  | flag (flag : Bool)
  | text (text : String)
  deriving DecidableEq

namespace Operation

open StoredDocument (load ofText update)

def component : Operation → Component
  | append .. => .history
  | clear => .history
  | list => .history
  | _ => .configuration

variable {σ : Type} [Store σ]

def action : Operation → Action σ Answer
  | append capacity entry => do
    History.append capacity entry
    return .done
  | clear => do
    History.clear
    return .done
  | list => return .commands (History.list (← getThe σ))
  | savePreferences patch => return .preferences (← update patch)
  | saveConfig patch => return .config (← update patch)
  | toggle id => return .flag (← Preferences.toggle id)
  | reset => do
    Preferences.reset
    return .done
  | importText text => return .flag (← Preferences.importText text)
  | exportText => return .text (Preferences.exportText (← getThe σ))
  | preferences => return .preferences (load (← getThe σ))
  | config => return .config (load (← getThe σ))

/-- The operations that are done one after another, each with what it returns, and the store
afterwards. -/
def transcript (store : σ) : List Operation → List (Operation × Except Failure Answer) × σ
  | [] => ([], store)
  | operation :: later =>
    let (answer, after) := operation.action.perform store
    let (answers, last) := transcript after later
    ((operation, answer) :: answers, last)

theorem within_component (operation : Operation) :
    Action.Within operation.component.keys (operation.action : Action σ Answer) := by
  have reads (key : String) {keys : Set String} (mem : key ∈ keys)
      (answer : Option String → Answer) :
      Action.Within keys (Action.get? key >>= fun text => pure (answer text) : Action σ Answer) :=
    .bind (.get? mem) fun _ => .pure _
  have saved : History.key ∈ Component.history.keys := rfl
  cases operation with
  | append capacity entry => exact .bind (History.within_append capacity entry) fun _ => .pure _
  | clear => exact .bind History.within_clear fun _ => .pure _
  | list =>
    have reading := reads History.key saved fun text => .commands (History.ofText text)
    exact reading
  | savePreferences patch =>
    exact .bind ((StoredDocument.within_update patch).mono Preferences.preferences_subset)
      fun _ => .pure _
  | saveConfig patch =>
    exact .bind ((StoredDocument.within_update patch).mono Preferences.config_subset)
      fun _ => .pure _
  | toggle id =>
    exact .bind ((Preferences.within_toggle id).mono Preferences.preferences_subset)
      fun _ => .pure _
  | reset => exact .bind Preferences.within_reset fun _ => .pure _
  | importText text => exact .bind (Preferences.within_importText text) fun _ => .pure _
  | exportText =>
    have reading :=
      Action.Within.bind (σ := σ) (.get? Preferences.preferences_mem) fun preferences =>
        reads _ Preferences.config_mem fun config =>
          .text (Preferences.exportValue (ofText preferences) (ofText config)).pretty
    exact reading
  | preferences =>
    have reading := reads _ Preferences.preferences_mem fun text => .preferences (ofText text)
    exact reading
  | config =>
    have reading := reads _ Preferences.config_mem fun text => .config (ofText text)
    exact reading

/-- The operations on a component answer, and leave its documents, as they do by themselves in
another store. -/
def Separate (component : Component) (store alone : σ) (operations : List Operation) : Prop :=
  (transcript store operations).1.filter (·.1.component = component) =
      (transcript alone (operations.filter (·.component = component))).1 ∧
    Set.EqOn (Store.get? (transcript store operations).2)
      (Store.get? (transcript alone (operations.filter (·.component = component))).2)
      component.keys

theorem keys_subset (component : Component) : component.keys ⊆ documents := by
  cases component with
  | history => exact Set.singleton_subset_iff.mpr (.inl rfl)
  | configuration => exact Set.subset_insert _ _

theorem notMem_keys {component other : Component} (different : other ≠ component) :
    ∀ view ∈ component.keys, view ∉ other.keys := by
  intro view viewed mem
  cases component <;> cases other
  case history.configuration => exact history_notMem_documentKeys (viewed ▸ mem)
  case configuration.history => exact history_notMem_documentKeys (mem ▸ viewed)
  all_goals exact different rfl

theorem transcript_cons (store : σ) (operation : Operation) (later : List Operation) :
    transcript store (operation :: later) =
      ((operation, (operation.action.perform store).1) ::
        (transcript (operation.action.perform store).2 later).1,
        (transcript (operation.action.perform store).2 later).2) := rfl

variable {component : Component} {good : σ → Prop} {store alone : σ}

theorem separate_of_serves (atomic : Store.AtomicOn documents component.keys good)
    (serves : Store.Serves documents good) (fine : good store) (aloneFine : good alone)
    (same : Set.EqOn (Store.get? store) (Store.get? alone) component.keys)
    (operations : List Operation) : Separate component store alone operations := by
  induction operations generalizing store alone with
  | nil => exact ⟨rfl, same⟩
  | cons operation later ih =>
    have within := within_component (σ := σ) operation
    have settled := within.fine (atomic.mono (keys_subset _) subset_rfl) fine
    -- The store that is alone takes a step with each own operation, and waits at the others.
    by_cases own : operation.component = component
    · subst own
      have aloneSettled := within.fine (atomic.mono (keys_subset _) subset_rfl) aloneFine
      obtain ⟨answered, agreed⟩ := within.agree (atomic.mono (keys_subset _) subset_rfl)
        (serves.mono (keys_subset _)) fine aloneFine same
      obtain ⟨answers, left⟩ := ih settled aloneSettled agreed
      rw [Separate, List.filter_cons_of_pos (by simp), transcript_cons, transcript_cons]
      refine ⟨?_, left⟩
      rw [List.filter_cons_of_pos (by simp), answers, answered]
    · have kept := within.others (atomic.mono (keys_subset _) subset_rfl) (notMem_keys own) fine
      obtain ⟨answers, left⟩ := ih settled aloneFine fun view viewed =>
        (kept viewed).trans (same viewed)
      rw [Separate, List.filter_cons_of_neg (by simpa using own), transcript_cons]
      refine ⟨?_, left⟩
      rw [List.filter_cons_of_neg (by simpa using own), answers]

/-- Over stores in memory, and over those in files that accept all writes, the operations on a
component do as they would by themselves in a store that has the same texts for it at the start. In
files these have to be in view: the operations on the other component might uncover them. The files
are in a tree without links, where no two of them are one. -/
theorem separate (component : Component) :
    (∀ store alone : MemoryStore,
      Set.EqOn (Store.get? store) (Store.get? alone) component.keys →
      ∀ operations, Separate component store alone operations) ∧
    ∀ store alone : FileStore,
      (∀ key ∈ documents, store.Accepts key ∧ alone.Accepts key) →
      (∀ key ∈ component.keys, store.InView key ∧ alone.InView key) →
      Set.EqOn (Store.get? store) (Store.get? alone) component.keys →
      ∀ operations, Separate component store alone operations := by
  constructor
  · intro store alone same operations
    exact separate_of_serves (MemoryStore.atomic.on _ _) (MemoryStore.serves documents) trivial
      trivial same operations
  · intro store alone accepts inView same operations
    exact separate_of_serves (FileStore.atomicOn_serving_documents component.keys)
      FileStore.serves
      ⟨fun key mem => (inView key mem).1, fun key mem => (accepts key mem).1⟩
      ⟨fun key mem => (inView key mem).2, fun key mem => (accepts key mem).2⟩ same operations

def interleaving : List Operation :=
  [.append 5 (History.echoed "a"), .savePreferences (.object [("theme", .string "dark")]),
    .append 1 (History.echoed "b"), .toggle "b", .importText "7", .list, .reset, .clear,
    .exportText, .list]

/-- In a directory that has to be made, and in memory. -/
theorem separate_unmade :
    Separate .history MemoryStore.empty MemoryStore.empty interleaving ∧
      (∀ key ∈ documents, FileStore.unmade.Accepts key) ∧
      Separate .history FileStore.unmade FileStore.unmade interleaving ∧
      Separate .configuration FileStore.unmade FileStore.unmade interleaving := by
  have accepts := (FileStore.serving_unmade documents).accepts
  have inView (key : String) : FileStore.unmade.InView key := FileStore.fresh_unmade.inView key
  refine ⟨?_, accepts, ?_, ?_⟩
  · exact (separate .history).1 _ _ (fun _ _ => rfl) interleaving
  · exact (separate .history).2 _ _ (fun key mem => ⟨accepts key mem, accepts key mem⟩)
      (fun key _ => ⟨inView key, inView key⟩) (fun _ _ => rfl) interleaving
  · exact (separate .configuration).2 _ _ (fun key mem => ⟨accepts key mem, accepts key mem⟩)
      (fun key _ => ⟨inView key, inView key⟩) (fun _ _ => rfl) interleaving

/-- A history that is out of reach, as the path to it goes up again out of a missing directory. -/
def hidden : FileStore where
  directory := "/missing/../data"
  tree :=
    { entries := [(⟨"/data"⟩, .directory), (⟨"/data/command-history.json"⟩,
        .file (.text (Json.array [.object [("command_text", .string "ls")]]).compact))]
      workingDirectory := .root }

theorem accepts_hidden : ∀ key ∈ documents, hidden.Accepts key := by
  rintro _ (rfl | rfl | rfl)
  all_goals exact FileStore.accepts_iff.mpr (by decide +kernel)

/-- All writes succeed, and to save preferences brings the history to light. -/
theorem not_separate_hidden :
    (∀ key ∈ documents, hidden.Accepts key) ∧
      ¬ Separate .history hidden hidden [.savePreferences (.object []), .list] := by
  refine ⟨accepts_hidden, fun ⟨answers, _⟩ => ?_⟩
  have answered := congrArg (List.map Prod.snd) answers
  exact absurd answered (by decide +kernel)

end Operation

end CommandSynthesis
