import CommandSynthesis.Proofs.CommandLine.Quiet
import CommandSynthesis.Proofs.History.Run

set_option autoImplicit false

/-!
# Launches

Runs of the program over one directory, one after another, with changes to the settings and the
preferences in between. Which commands the history has is decided by each run alone, from what it
is asked, the settings and the preferences.
-/

namespace CommandSynthesis

namespace CommandLine

open StoredDocument (load)

/-- What a run of the program starts with. -/
structure Launch where
  environment : Environment
  now : Instant
  tree : FileTree
  arguments : List String

def Invocation.directory (invocation : Invocation) (settings : Settings) : String :=
  invocation.dataDirectory.getD settings.store.dataDirectory

/-- A command to be made, under the settings in force. -/
structure Generation where
  settings : Settings
  template : Template
  assignments : List (String × String)
  strict : Bool
  save : Bool
  json : Bool

namespace Generation

variable (generation : Generation) (store : FileStore) (now : Instant)

def result : Synthesis :=
  generation.template.synthesize
    (chosenBindings (load store) generation.template generation.assignments)
    (generation.strict || generation.settings.engine.strict) now

/-- The result is to be saved: it is asked for, or it is valid and such are saved unasked. -/
def isSaved : Bool :=
  generation.save ||
    ((load store : Preferences).autoSaveHistory && (generation.result store now).valid)

/-- What is written of the result. -/
def output : String :=
  printed (generation.result store now) generation.json ++ "\n"

end Generation

namespace Launch

def outcome (launch : Launch) : Outcome :=
  run launch.environment launch.now launch.tree launch.arguments

/-- What the arguments ask for, and the settings in force, where a run gets that far. -/
def opened? (launch : Launch) : Option (Invocation × Settings) :=
  match Invocation.read launch.arguments with
  | .error _ => none
  | .ok invocation =>
    let path := invocation.settings.getD launch.environment.settingsPath
    match Settings.load launch.environment launch.tree path with
    | .error _ => none
    | .ok settings => some (invocation, settings)

/-- The command that a run makes from a template that there is. -/
def generation? (launch : Launch) : Option Generation :=
  match launch.opened? with
  | some (⟨_, _, .generate id assignments strict save json⟩, settings) =>
    (Catalog.builtin.find? id).map fun template =>
      { settings, template, assignments, strict, save, json }
  | _ => none

/-- Whether a run clears the history. -/
def clears (launch : Launch) : Bool :=
  match launch.opened? with
  | some (⟨_, _, .history true _⟩, _) => true
  | _ => false

/-- The store that a run finds in a directory. -/
def before (launch : Launch) (directory : String) : FileStore :=
  ⟨directory, launch.tree⟩

/-- The store that a run leaves in a directory. -/
def after (launch : Launch) (directory : String) : FileStore :=
  ⟨directory, launch.outcome.tree⟩

variable {launch : Launch} {invocation : Invocation} {settings : Settings}

theorem tree_of_not_opened (shut : launch.opened? = none) : launch.outcome.tree = launch.tree := by
  unfold opened? at shut
  unfold outcome run
  cases read : Invocation.read launch.arguments with
  | error stop => cases stop <;> rfl
  | ok invocation =>
    simp only [read] at shut ⊢
    unfold Invocation.run
    cases loaded : Settings.load launch.environment launch.tree
        (invocation.settings.getD launch.environment.settingsPath) with
    | error failure => simp only [loaded]
    | ok settings => simp [loaded] at shut

theorem outcome_of_opened (opened : launch.opened? = some (invocation, settings)) :
    ∃ context messages, context.settings = settings ∧ context.now = launch.now ∧
      context.capacity = capacity settings (launch.before (invocation.directory settings)) ∧
      launch.outcome = .ofSession (execute context invocation.command)
        { store := launch.before (invocation.directory settings), messages } := by
  unfold opened? at opened
  cases read : Invocation.read launch.arguments with
  | error stop => simp [read] at opened
  | ok found =>
    simp only [read] at opened
    cases loaded : Settings.load launch.environment launch.tree
        (found.settings.getD launch.environment.settingsPath) with
    | error failure => simp [loaded] at opened
    | ok given =>
      simp only [loaded, Option.some.injEq, Prod.mk.injEq] at opened
      obtain ⟨rfl, rfl⟩ := opened
      let store := launch.before (found.directory given)
      let context : Context :=
        { settings := given
          settingsPath := found.settings.getD launch.environment.settingsPath
          capacity := capacity given store
          filter := (logFilter launch.environment given).1
          colored := isColored launch.environment
          now := launch.now }
      have ran : launch.outcome = .ofSession
          (do
            Step.messages (logFilter launch.environment given).2
            greet context
            execute context found.command)
          { store } := by
        unfold outcome run
        simp only [read]
        unfold Invocation.run
        simp only [loaded]
        rfl
      obtain ⟨first, ignored⟩ :=
        (Step.tells_messages (logFilter launch.environment given).2).start_bind
          (fun _ => greet context >>= fun _ => execute context found.command) { store }
      obtain ⟨messages, greeted⟩ := (Step.tells_greet context).start_bind
        (fun _ => execute context found.command) { store, messages := first }
      exact ⟨context, messages, rfl, rfl, rfl,
        ran.trans (Step.ofSession_of_start (ignored.trans greeted))⟩

/-- A run keeps its data in a directory, where calls on the history succeed. -/
structure Ready (launch : Launch) (directory : String) : Prop where
  found : ∀ opened ∈ launch.opened?, opened.1.directory opened.2 = directory
  accepts : (launch.before directory).Accepts History.key

/-- The commands in the history after a run. -/
def follow (launch : Launch) (directory : String) (entries : List Synthesis) : List Synthesis :=
  let store := launch.before directory
  match launch.generation? with
  | some generation =>
    if generation.isSaved store launch.now then
      (generation.result store launch.now :: entries).take
        (capacity generation.settings store).toNat
    else entries
  | none => if launch.clears then [] else entries

variable {directory : String} {generation : Generation}

theorem exists_of_generation? (made : launch.generation? = some generation) :
    ∃ invocation id, launch.opened? = some (invocation, generation.settings) ∧
      invocation.command = .generate id generation.assignments generation.strict generation.save
        generation.json ∧
      Catalog.builtin.find? id = some generation.template := by
  unfold generation? at made
  split at made
  · next opened =>
    obtain ⟨template, found, rfl⟩ := Option.map_eq_some_iff.mp made
    exact ⟨_, _, opened, rfl, found⟩
  · cases made

/-- What a run does that makes a command. -/
theorem outcome_of_generation (ready : launch.Ready directory)
    (made : launch.generation? = some generation) :
    let store := launch.before directory
    let result := generation.result store launch.now
    ∃ messages, launch.outcome =
      { status := if result.valid then success else failure
        output := generation.output store launch.now
        messages
        tree :=
          (if generation.isSaved store launch.now then
            ((History.append (capacity generation.settings store) result).perform store).2
          else store).tree } := by
  intro store result
  obtain ⟨invocation, id, opened, command, found⟩ := exists_of_generation? made
  obtain ⟨context, first, settings, now, room, ran⟩ := outcome_of_opened opened
  obtain rfl := ready.found _ opened
  obtain ⟨messages, generated⟩ := start_generate context found generation.assignments
    generation.strict generation.save generation.json { store, messages := first }
  refine ⟨messages, ?_⟩
  rw [ran, command]
  refine (Step.ofSession_of_ok generated).trans ?_
  rw [settings, now, room, String.empty_append]
  rfl

/-- The history is in view, and has a text. -/
structure Holds (directory : String) (text : Option String) (store : FileStore) : Prop where
  directory : store.directory = directory
  inView : store.Presents {History.key}
  get? : Store.get? store History.key = text

theorem configures_holds (directory : String) (text : Option String) :
    Configures (Holds directory text) := by
  intro α action within store holds
  have atomic := (FileStore.atomicOn_documents {History.key}).mono documentKeys_subset subset_rfl
  have apart : ∀ view ∈ ({History.key} : Set String), view ∉ Preferences.documentKeys := by
    rintro _ rfl
    exact history_notMem_documentKeys
  exact ⟨(FileStore.directory_perform within store).trans holds.directory,
    within.fine atomic holds.inView, (within.others atomic apart holds.inView rfl).trans holds.get?⟩

theorem isQuiet_of_opened (opened : launch.opened? = some (invocation, settings))
    (none : launch.generation? = none) (kept : launch.clears = false) :
    invocation.command.isQuiet = true := by
  unfold generation? at none
  unfold clears at kept
  rw [opened] at none kept
  obtain ⟨_, _, command⟩ := invocation
  cases command with
  | generate id assignments strict save json =>
    exact Option.isNone_iff_eq_none.mpr (Option.map_eq_none_iff.mp none)
  | history clear json =>
    cases clear with
    | true => cases kept
    | false => rfl
  | _ => rfl

theorem exists_of_clears (clears : launch.clears = true) :
    ∃ invocation settings json, launch.opened? = some (invocation, settings) ∧
      invocation.command = .history true json := by
  unfold Launch.clears at clears
  split at clears
  · next opened => exact ⟨_, _, _, opened, rfl⟩
  · cases clears

theorem mk_tree {store : FileStore} (same : store.directory = directory) :
    (⟨directory, store.tree⟩ : FileStore) = store := by
  subst same
  rfl

theorem holds_after_of_quiet (ready : launch.Ready directory)
    (inView : (launch.before directory).Presents {History.key})
    (none : launch.generation? = none) (kept : launch.clears = false) :
    Holds directory (Store.get? (launch.before directory) History.key)
      (launch.after directory) := by
  have held : Holds directory (Store.get? (launch.before directory) History.key)
      (launch.before directory) := ⟨rfl, inView, rfl⟩
  cases opened : launch.opened? with
  | none =>
    have same : launch.after directory = launch.before directory := by
      rw [after, tree_of_not_opened opened, before]
    rwa [same]
  | some found =>
    obtain ⟨invocation, settings⟩ := found
    obtain ⟨context, messages, -, -, -, ran⟩ := outcome_of_opened opened
    obtain rfl : invocation.directory settings = directory := ready.found _ opened
    have holds := keeps_execute context (configures_holds _ _)
      (isQuiet_of_opened opened none kept)
      { store := launch.before (invocation.directory settings), messages } held
    have left : launch.after (invocation.directory settings) =
        ((execute context invocation.command).start
          { store := launch.before (invocation.directory settings), messages }).2.store := by
      rw [after, ran, Step.tree_ofSession]
      exact mk_tree holds.directory
    rwa [left]

theorem tree_of_clears (opened : launch.opened? = some (invocation, settings))
    (clears : launch.clears = true) :
    launch.outcome.tree =
      (History.clear.perform (launch.before (invocation.directory settings))).2.tree := by
  obtain ⟨_, _, json, found, command⟩ := exists_of_clears clears
  obtain ⟨rfl, rfl⟩ := Prod.mk.inj (Option.some.inj (opened.symm.trans found))
  obtain ⟨context, messages, -, -, -, ran⟩ := outcome_of_opened opened
  have cleared := store_history_clear context json
    { store := launch.before (invocation.directory settings), messages }
  rw [ran, command, Step.tree_ofSession]
  exact congrArg FileStore.tree cleared

theorem after_of_clears (ready : launch.Ready directory) (clears : launch.clears = true) :
    launch.after directory = (History.clear.perform (launch.before directory)).2 := by
  obtain ⟨invocation, settings, json, opened, -⟩ := exists_of_clears clears
  obtain rfl : invocation.directory settings = directory := ready.found _ opened
  rw [after, tree_of_clears opened clears]
  exact mk_tree (FileStore.directory_perform History.within_clear _)

/-- Where calls on the history succeed they do what they say. -/
theorem list_after_call {store : FileStore} (accepts : store.Accepts History.key)
    (inView : store.Presents {History.key}) (call : History.Call) :
    (call.action.perform store).2.Presents {History.key} ∧
      History.list (call.action.perform store).2 = call.apply (History.list store) := by
  have done : (call.action.perform store).1 = .ok () := by
    cases call with
    | append capacity entry =>
      change ((History.append capacity entry).perform store).1 = _
      unfold History.append
      rw [Action.perform_bind_ok (Action.perform_get? _ _)]
      exact accepts.set _
    | clear => exact accepts.remove
  cases performed : call.action.perform store with
  | mk outcome after =>
  rw [performed] at done
  cases done
  exact History.good_and_list_after_call (FileStore.atomicOn_documents {History.key}) (.inl rfl) rfl
    inView performed

/-- What one run does to the history. -/
theorem list_after (ready : launch.Ready directory)
    (inView : (launch.before directory).Presents {History.key}) :
    (launch.after directory).Presents {History.key} ∧
      History.list (launch.after directory) =
        launch.follow directory (History.list (launch.before directory)) := by
  unfold follow
  cases made : launch.generation? with
  | some generation =>
    obtain ⟨messages, ran⟩ := outcome_of_generation ready made
    cases saved : generation.isSaved (launch.before directory) launch.now with
    | false =>
      have same : launch.after directory = launch.before directory := by
        rw [after, ran, saved]
        rfl
      rw [same]
      exact ⟨inView, (if_neg (ne_true_of_eq_false saved)).symm⟩
    | true =>
      have appended : launch.after directory = ((History.append
          (capacity generation.settings (launch.before directory))
          (generation.result (launch.before directory) launch.now)).perform
          (launch.before directory)).2 := by
        rw [after, ran, saved]
        exact mk_tree (FileStore.directory_perform (History.within_append _ _) _)
      obtain ⟨presents, listed⟩ := list_after_call ready.accepts inView (.append
        (capacity generation.settings (launch.before directory))
        (generation.result (launch.before directory) launch.now))
      rw [appended]
      exact ⟨presents, listed.trans (if_pos saved).symm⟩
  | none =>
    cases clears : launch.clears with
    | true =>
      rw [after_of_clears ready clears]
      exact list_after_call ready.accepts inView .clear
    | false =>
      have holds := holds_after_of_quiet ready inView made clears
      exact ⟨holds.inView, congrArg History.ofText holds.get?⟩

end Launch

/-- The history has the same text, there or out of reach. -/
structure Untouched (before after : FileStore) : Prop where
  get? : Store.get? after History.key = Store.get? before History.key
  textAt : after.textAt History.key = before.textAt History.key

/-- Launches one after another over a directory. Between them all may change but the history. -/
inductive Launches (directory : String) : FileTree → List Launch → Prop where
  | nil {tree : FileTree} : Launches directory tree []
  | cons {tree : FileTree} {launch : Launch} {later : List Launch} :
      Untouched ⟨directory, tree⟩ (launch.before directory) → launch.Ready directory →
      Launches directory launch.outcome.tree later → Launches directory tree (launch :: later)

theorem Untouched.presents {before after : FileStore} (untouched : Untouched before after)
    (inView : before.Presents {History.key}) : after.Presents {History.key} := by
  rintro _ rfl
  exact untouched.get?.trans ((inView _ rfl).trans untouched.textAt.symm)

theorem Untouched.list {before after : FileStore} (untouched : Untouched before after) :
    History.list after = History.list before :=
  congrArg History.ofText untouched.get?

variable {directory : String} {tree : FileTree} {launch : Launch} {done later : List Launch}

/-- What each launch keeps of the commands in the history holds when a later one starts. -/
theorem Launches.reach (launches : Launches directory tree (done ++ launch :: later))
    (inView : FileStore.Presents {History.key} ⟨directory, tree⟩) (kept : List Synthesis → Prop)
    (start : kept (History.list (⟨directory, tree⟩ : FileStore)))
    (keeps : ∀ other ∈ done, ∀ entries, kept entries → kept (other.follow directory entries)) :
    launch.Ready directory ∧ (launch.before directory).Presents {History.key} ∧
      kept (History.list (launch.before directory)) := by
  -- By induction on the launches before, each of which starts with the tree that the last one left.
  induction done generalizing tree with
  | nil =>
    cases launches with
    | cons untouched ready _ => exact ⟨ready, untouched.presents inView, untouched.list ▸ start⟩
  | cons first done ih =>
    cases launches with
    | cons untouched ready launches =>
      obtain ⟨presents, listed⟩ := first.list_after ready (untouched.presents inView)
      have left : kept (History.list (first.after directory)) := by
        rw [listed, untouched.list]
        exact keeps first List.mem_cons_self _ start
      exact ih launches presents left fun other mem => keeps other (List.mem_cons_of_mem _ mem)

/-- All commands are valid, and nothing is wrong with them. -/
def AreValid (entries : List Synthesis) : Prop :=
  ∀ entry ∈ entries, entry.valid = true ∧ entry.errors = []

theorem Generation.errors_eq_nil_iff (generation : Generation) (store : FileStore)
    (now : Instant) : (generation.result store now).errors = [] ↔
      (generation.result store now).valid = true :=
  List.isEmpty_iff.symm

theorem AreValid.follow {entries : List Synthesis} (valid : AreValid entries)
    (unasked : ∀ generation ∈ launch.generation?, generation.save = false) :
    AreValid (launch.follow directory entries) := by
  unfold Launch.follow
  cases made : launch.generation? with
  | none =>
    dsimp only
    split
    · exact List.forall_mem_nil _
    · exact valid
  | some generation =>
    dsimp only
    split
    · next saved =>
      rw [Generation.isSaved, unasked generation made, Bool.false_or, Bool.and_eq_true] at saved
      have all : AreValid (generation.result (launch.before directory) launch.now :: entries) :=
        List.forall_mem_cons.mpr ⟨⟨saved.2, (generation.errors_eq_nil_iff _ _).mpr saved.2⟩, valid⟩
      exact fun entry mem => all entry (List.mem_of_mem_take mem)
    · exact valid

def processes : Synthesis :=
  { command := "ps aux --sort=-%cpu | grep -E -- . | head -n 25", valid := true, errors := []
    createdAt := .epoch, templateId := "process-monitor" }

end CommandLine

end CommandSynthesis
