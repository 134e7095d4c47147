import CommandSynthesis.Proofs.CommandLine.Launch
import CommandSynthesis.Proofs.Store.Frame

set_option autoImplicit false

/-!
# What a run changes

Each command has documents of its own, and may have none. A run changes the files of these documents
alone, and no file at all when it names a template that there is not, or does not get as far as its
command. That holds whatever the files hold, and whether or not the run succeeds. The files are
those of a tree without links, so that none can be changed under a second name.
-/

namespace CommandSynthesis.CommandLine

open StoredDocument (key)
open Step

variable {kept : FileStore → Prop} (context : Context) {command : Command}

/-- A command without documents keeps everything. -/
theorem keeps_execute_of_documents_eq_empty (none : command.documents = ∅) :
    Keeps kept (execute context command) := by
  refine keeps_execute_of_within context command fun within store held => ?_
  rw [none] at within
  exact within.kept kept (fun _ key mem => absurd mem (Set.notMem_empty key))
    (fun _ key mem => absurd mem (Set.notMem_empty key)) held

/-- A command changes the files of its documents alone. -/
theorem changes_execute (command : Command) (store : FileStore) :
    Keeps (FileStore.Changes command.documents store) (execute context command) := by
  refine keeps_execute_of_within context command fun within middle changes => ?_
  exact changes.trans (FileStore.changes_perform within middle)

namespace Launch

variable {launch : Launch} {invocation : Invocation} {settings : Settings}

/-- What its command keeps of the store, a run leaves. -/
theorem exists_left (opened : launch.opened? = some (invocation, settings))
    (keeps : ∀ context, Keeps kept (execute context invocation.command))
    (start : kept (launch.before (invocation.directory settings))) :
    ∃ left, kept left ∧ launch.outcome.tree = left.tree := by
  obtain ⟨context, messages, -, -, -, ran⟩ := outcome_of_opened opened
  have left := keeps context
    { store := launch.before (invocation.directory settings), messages } start
  exact ⟨_, left, by rw [ran, tree_ofSession]⟩

theorem tree_of_keeps (opened : launch.opened? = some (invocation, settings))
    (keeps : ∀ {kept : FileStore → Prop} context,
      Keeps kept (execute context invocation.command)) :
    launch.outcome.tree = launch.tree := by
  let same (store : FileStore) : Prop := store = launch.before (invocation.directory settings)
  have start : same (launch.before (invocation.directory settings)) := rfl
  obtain ⟨left, unchanged, leaves⟩ := exists_left opened keeps start
  rw [leaves, unchanged, before]

/-- In any tree, which has no links and no permissions, a run changes the files of the documents of
its command alone, their temporary ones included. It leaves the tree as it is if there are none, if
it names a template that there is not, or if it does not get as far as its command. A run that
clears the history takes its file away, or leaves it. -/
theorem files_after (launch : Launch) :
    (launch.opened? = none → launch.outcome.tree = launch.tree) ∧
    ∀ invocation settings, launch.opened? = some (invocation, settings) →
      let store := launch.before (invocation.directory settings)
      let documents := invocation.command.documents
      let after := launch.outcome.tree
      (documents = ∅ → after = launch.tree) ∧
      (∀ id ∈ invocation.command.template?, Catalog.builtin.find? id = none →
        after = launch.tree) ∧
      (∀ place ∉ store.placesOf documents,
        after.contentAt? place = launch.tree.contentAt? place) ∧
      (launch.clears = true →
        let left := after.contentAt? (store.filePlace History.key)
        left = launch.tree.contentAt? (store.filePlace History.key) ∨ left = none) := by
  refine ⟨tree_of_not_opened, fun invocation settings opened => ⟨?_, ?_, ?_, ?_⟩⟩
  · intro none
    exact tree_of_keeps opened fun context => keeps_execute_of_documents_eq_empty context none
  · intro id named unknown
    exact tree_of_keeps opened fun context => keeps_execute_of_unknown context named unknown
  · intro place out
    obtain ⟨left, changes, same⟩ :=
      exists_left opened (changes_execute · invocation.command _) (.refl _ _)
    rw [same]
    exact changes.alters.contentAt? out
  · intro clears
    rw [tree_of_clears opened clears]
    exact FileStore.contentAt?_remove _ History.key

/-- A template is made a favorite, over a history that is no text. -/
def favoring : Launch where
  environment := {}
  now := .epoch
  tree :=
    ⟨[(⟨"/data"⟩, .directory), (⟨"/data/command-history.json"⟩, .file (.binary [0xFF]))], .root⟩
  arguments := ["config", "favorite", "process-monitor", "--data-dir", "/data"]

theorem history_after_favoring : ∃ invocation settings,
    favoring.opened? = some (invocation, settings) ∧
      invocation.command.documents = {key Preferences} ∧
      favoring.outcome.tree.contentAt? ⟨"/data/command-history.json"⟩ =
        some (.binary [0xFF]) := by
  have facts : favoring.opened?.map (fun opened =>
      (opened.1.command, opened.1.directory opened.2)) =
        some (.config (.favorite "process-monitor"), "/data") := by
    decide +kernel
  obtain ⟨⟨invocation, settings⟩, opened, same⟩ := Option.map_eq_some_iff.mp facts
  obtain ⟨command, directory⟩ := Prod.mk.inj same
  obtain ⟨-, -, others, -⟩ := (files_after favoring).2 invocation settings opened
  have documents : invocation.command.documents = {key Preferences} := by rw [command]; rfl
  rw [documents, directory] at others
  refine ⟨invocation, settings, opened, documents, others ⟨"/data/command-history.json"⟩ ?_⟩
  intro member
  rcases member with ⟨_, rfl, same⟩ | ⟨_, rfl, same⟩
  · exact absurd same (by decide +kernel)
  · exact absurd same (by decide +kernel)

end Launch

end CommandSynthesis.CommandLine
