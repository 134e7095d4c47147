import CommandSynthesis.Proofs.CommandLine.Generate
import CommandSynthesis.Proofs.Preferences.Reach

set_option autoImplicit false

/-!
# What commands keep

Each command has documents of its own, and may have none. It keeps whatever actions on its documents
keep, and everything when it names a template that there is not. So all commands but two keep what
actions on the preferences and the layout keep. The two are those that make a command, and that
clear the history.
-/

namespace CommandSynthesis.CommandLine

open Step
open StoredDocument (key)

/-- The keys of the documents that a command may change. -/
def Command.documents : Command → Set String
  | .generate _ _ _ _ _ => {History.key}
  | .history true _ => {History.key}
  | .config (.importFile _) => Preferences.documentKeys
  | .config .reset => Preferences.documentKeys
  | .config (.favorite _) => {key Preferences}
  | _ => ∅

example : [History.key, key Preferences, key SystemConfig].map FileStore.fileName =
    ["command-history.json", "cmdsmith-preferences.json", "cmdsmith-system-config.json"] := by
  decide

/-- The id of the template that a command is about. -/
def Command.template? : Command → Option String
  | .describe id => some id
  | .generate id _ _ _ _ => some id
  | .config (.favorite id) => some id
  | .lint id => id
  | _ => none

/-- A command neither makes a command from a template that there is, nor clears the history. -/
def Command.isQuiet : Command → Bool
  | .generate id _ _ _ _ => (Catalog.builtin.find? id).isNone
  | .history clear _ => !clear
  | _ => true

/-- Actions on the preferences and the layout keep something that holds of the store. -/
def Configures (kept : FileStore → Prop) : Prop :=
  ∀ {α : Type} {action : Action FileStore α}, action.Within Preferences.documentKeys →
    ∀ store, kept store → kept (action.perform store).2

variable {kept : FileStore → Prop} (context : Context) {command : Command} {id : String}

theorem keeps_template (id : String) : Keeps kept (Step.template id) := by
  unfold Step.template
  split
  · exact keeps_pure _
  · exact keeps_throw _

theorem keeps_preferences : Keeps kept (preferences context) :=
  (tells_note context _).keeps.bind fun _ => keeps_get.bind fun _ => keeps_pure _

theorem keeps_list (category search : Option String) :
    Keeps kept (list context category search) := by
  unfold list
  refine (keeps_preferences context).bind fun preferences => ?_
  refine (keeps_lines _).bind fun _ => ?_
  refine keeps_ite ((keeps_line _).bind fun _ => ?_) (keeps_pure _)
  exact keeps_ite ((keeps_line _).bind fun _ => keeps_pure _) (keeps_pure _)

theorem keeps_describe (id : String) : Keeps kept (describe id) :=
  (keeps_template id).bind fun _ => (keeps_lines _).bind fun _ => keeps_pure _

theorem keeps_lint (id : Option String) : Keeps kept (lint id) := by
  unfold lint
  cases id with
  | none =>
    refine (keeps_pure _).bind fun (checked, issues) => (tells_messages _).keeps.bind fun _ => ?_
    exact (keeps_line _).bind fun _ => keeps_pure _
  | some id =>
    refine (keeps_template id).bind fun _ => (keeps_pure _).bind fun (checked, issues) => ?_
    exact (tells_messages _).keeps.bind fun _ => (keeps_line _).bind fun _ => keeps_pure _

theorem keeps_show (json : Bool) : Keeps kept (history context false json) := by
  unfold history
  refine (tells_note context _).keeps.bind fun _ => keeps_get.bind fun _ => ?_
  refine keeps_ite ((keeps_line _).bind fun _ => keeps_pure _) ?_
  exact (keeps_lines _).bind fun _ => keeps_pure _

theorem keeps_exportConfig : Keeps kept (exportConfig context) :=
  (tells_note context _).keeps.bind fun _ => keeps_get.bind fun _ => keeps_line _

theorem keeps_overview : Keeps kept (overview context) := by
  unfold overview
  refine keeps_get.bind fun _ => (keeps_lines _).bind fun _ => ?_
  exact (keeps_exportConfig context).bind fun _ => keeps_pure _

theorem keeps_favorite (id : String) (toggles : ∀ store, kept store →
    kept ((Preferences.toggle id : Action FileStore Bool).perform store).2) :
    Keeps kept (favorite context id) := by
  unfold favorite
  refine (keeps_template id).bind fun _ => (tells_note context _).keeps.bind fun _ => ?_
  refine (keeps_require toggles _).bind fun _ => ?_
  exact keeps_ite ((keeps_line _).bind fun _ => keeps_pure _)
    ((keeps_line _).bind fun _ => keeps_pure _)

theorem keeps_template_bind {α : Type} (unknown : Catalog.builtin.find? id = none)
    (next : Template → Step α) : Keeps kept (Step.template id >>= next) := by
  intro session held
  rw [start_bind_error (start_template_unknown unknown session)]
  exact held

/-- When there is no such template, nothing is done to the store. -/
theorem keeps_execute_of_unknown (named : command.template? = some id)
    (unknown : Catalog.builtin.find? id = none) : Keeps kept (execute context command) := by
  cases command with
  | list => cases named
  | describe other => exact keeps_describe other
  | generate other assignments strict save json =>
    cases named
    exact keeps_template_bind unknown _
  | history => cases named
  | config command =>
    cases command with
    | favorite other =>
      cases named
      exact keeps_template_bind unknown _
    | overview => cases named
    | exportText => cases named
    | importFile => cases named
    | reset => cases named
  | lint other => exact keeps_lint other

theorem keeps_generate (assignments : List (String × String)) (strict save json : Bool)
    (appends : ∀ result store, kept store →
      kept ((History.append context.capacity result).perform store).2) :
    Keeps kept (generate context id assignments strict save json) := by
  cases found : Catalog.builtin.find? id with
  | none => exact keeps_template_bind found _
  | some template =>
    intro session held
    obtain ⟨messages, started⟩ := start_generate context found assignments strict save json session
    rw [started]
    dsimp only
    split
    · exact appends _ _ held
    · exact held

/-- A command that clears the history leaves what its removal leaves. -/
theorem store_history_clear (json : Bool) (session : Session) :
    ((history context true json).start session).2.store =
      (History.clear.perform session.store).2 := by
  have performed := start_perform (History.clear : Action FileStore Unit) session
  unfold history require
  rw [if_pos rfl]
  cases ended : (History.clear.perform session.store).1 with
  | ok =>
    rw [ended] at performed
    rw [start_bind_ok (start_bind_ok performed _)]
    rfl
  | error failure =>
    rw [ended] at performed
    rw [start_bind_error (start_bind_ok performed _)]

theorem keeps_importConfig (file : String) (imports : ∀ text store, kept store →
    kept ((Preferences.importText text : Action FileStore Bool).perform store).2) :
    Keeps kept (importConfig context file) := by
  unfold importConfig
  refine keeps_get.bind fun session => ?_
  cases session.store.tree.readText file with
  | error error => exact keeps_throw _
  | ok text =>
    refine (tells_note context _).keeps.bind fun _ => ?_
    refine (keeps_require (imports text) _).bind fun _ => ?_
    exact keeps_ite ((keeps_line _).bind fun _ => keeps_pure _) (keeps_throw _)

/-- A command keeps what actions on its documents keep. -/
theorem keeps_execute_of_within (command : Command)
    (keeps : ∀ {α : Type} {action : Action FileStore α}, action.Within command.documents →
      ∀ store, kept store → kept (action.perform store).2) :
    Keeps kept (execute context command) := by
  cases command with
  | list category search => exact keeps_list context category search
  | describe id => exact keeps_describe id
  | generate id assignments strict save json =>
    exact keeps_generate context assignments strict save json fun result =>
      keeps (History.within_append _ result)
  | history clear json =>
    cases clear with
    | true =>
      intro session held
      rw [execute, store_history_clear]
      exact keeps History.within_clear session.store held
    | false => exact keeps_show context json
  | config command =>
    cases command with
    | overview => exact keeps_overview context
    | exportText => exact (keeps_exportConfig context).bind fun _ => keeps_pure _
    | importFile file =>
      exact keeps_importConfig context file fun text => keeps (Preferences.within_importText text)
    | reset =>
      refine (keeps_require (keeps Preferences.within_reset) _).bind fun _ => ?_
      exact (keeps_line _).bind fun _ => keeps_pure _
    | favorite id => exact keeps_favorite context id (keeps (Preferences.within_toggle id))
  | lint id => exact keeps_lint id

theorem keeps_execute (configures : Configures kept) (quiet : command.isQuiet = true) :
    Keeps kept (execute context command) := by
  have within (sub : command.documents ⊆ Preferences.documentKeys) :
      Keeps kept (execute context command) :=
    keeps_execute_of_within context command fun within => configures (within.mono sub)
  cases command with
  | generate id assignments strict save json =>
    exact keeps_execute_of_unknown context rfl (Option.isNone_iff_eq_none.mp quiet)
  | history clear json =>
    cases clear with
    | true => cases quiet
    | false => exact within (Set.empty_subset _)
  | config command =>
    cases command with
    | favorite id => exact within Preferences.preferences_subset
    | importFile file => exact within (Set.Subset.refl _)
    | reset => exact within (Set.Subset.refl _)
    | overview => exact within (Set.empty_subset _)
    | exportText => exact within (Set.empty_subset _)
  | list => exact within (Set.empty_subset _)
  | describe => exact within (Set.empty_subset _)
  | lint => exact within (Set.empty_subset _)

end CommandSynthesis.CommandLine
