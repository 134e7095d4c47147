import CommandSynthesis.Proofs.CommandLine.Step

set_option autoImplicit false

/-!
# Making a command

What the command that makes a command comes to, in one equation: the status, the output, and the
store, in which the result is saved or not.
-/

namespace CommandSynthesis.CommandLine

open Step
open StoredDocument (load loadNotes)

/-- Tells of the assignments to names that no input has. -/
def warnings (context : Context) (id : String) (template : Template)
    (assignments : List (String × String)) : Step Unit :=
  forIn assignments () fun assignment _ =>
    match assignment with
    | (name, _) => do
      if (template.findInput? name).isNone then
        log context (Log.warning .commands
          ("Template '" ++ id ++ "' has no input named '" ++ name ++ "'"))
      return .yield ()

/-- Shows a command that has been made. -/
def present (result : Synthesis) (json : Bool) : Step Nat := do
  if json then line result.encode.pretty
  else
    line result.command
    messages (result.errors.map Synthesis.errorLine)
  return if result.valid then success else failure

/-- Saves a command that has been made, or does not, and shows it. -/
def settle (context : Context) (result : Synthesis) (saved json : Bool) : Step Nat := do
  if saved then remember context result
  present result json

/-- What is written of a command that has been made. -/
def printed (result : Synthesis) (json : Bool) : String :=
  if json then result.encode.pretty else result.command

variable (context : Context)

theorem generate_eq (id : String) (assignments : List (String × String))
    (strict save json : Bool) :
    generate context id assignments strict save json = (do
      let template ← template id
      let preferences ← preferences context
      warnings context id template assignments
      let result := template.synthesize (chosenBindings preferences template assignments)
        (strict || context.settings.engine.strict) context.now
      log context (template.synthesisNote result)
      if preferences.showDangerWarnings && !json && template.dangerLevel ≠ .safe then
        message (dangerLine template)
      settle context result (save || (preferences.autoSaveHistory && result.valid)) json) := rfl

theorem start_template {id : String} {template : Template}
    (found : Catalog.builtin.find? id = some template) (session : Session) :
    (Step.template id).start session = (.ok template, session) := by
  unfold Step.template
  rw [found]
  rfl

theorem start_template_unknown {id : String} (unknown : Catalog.builtin.find? id = none)
    (session : Session) :
    (Step.template id).start session = (.error (.ofFailure (.unknownTemplate id)), session) := by
  unfold Step.template
  rw [unknown]
  rfl

theorem start_preferences (session : Session) : ∃ messages,
    (preferences context).start session =
      (.ok (load session.store), { session with messages }) := by
  obtain ⟨messages, told⟩ := tells_note context (loadNotes Preferences) session
  refine ⟨messages, ?_⟩
  unfold preferences
  rw [start_bind_ok told]
  rfl

theorem tells_warnings (id : String) (template : Template)
    (assignments : List (String × String)) : Tells (warnings context id template assignments) := by
  unfold warnings
  refine tells_forIn fun assignment session => ?_
  obtain ⟨messages, told⟩ := (tells_log context (Log.warning .commands
    ("Template '" ++ id ++ "' has no input named '" ++ assignment.1 ++ "'"))).start_ite
    ((template.findInput? assignment.1).isNone = true) (fun _ => return ForInStep.yield ()) session
  exact ⟨messages, told⟩

theorem start_remember (result : Synthesis) (session : Session) : ∃ messages,
    (remember context result).start session =
      (.ok (), { session with
        store := ((History.append context.capacity result).perform session.store).2
        messages }) := by
  obtain ⟨first, told⟩ := tells_note context (History.appendNotes context.capacity result) session
  unfold remember
  rw [start_bind_ok told, start_bind_ok (start_perform _ _)]
  cases ((History.append context.capacity result).perform session.store).1 with
  | ok => exact ⟨first, rfl⟩
  | error failure => exact tells_message _ _

theorem start_present (result : Synthesis) (json : Bool) (session : Session) : ∃ messages,
    (present result json).start session =
      (.ok (if result.valid then success else failure),
        { session with output := session.output ++ printed result json ++ "\n", messages }) := by
  unfold present printed
  cases json with
  | true => exact ⟨session.messages, rfl⟩
  | false =>
    have shown : (line result.command).start session =
      (.ok (), { session with output := session.output ++ result.command ++ "\n" }) := rfl
    obtain ⟨messages, told⟩ := tells_messages (result.errors.map Synthesis.errorLine)
      { session with output := session.output ++ result.command ++ "\n" }
    refine ⟨messages, ?_⟩
    rw [if_neg Bool.false_ne_true, start_bind_ok shown, start_bind_ok told]
    rfl

theorem start_settle (result : Synthesis) (saved json : Bool) (session : Session) : ∃ messages,
    (settle context result saved json).start session =
      (.ok (if result.valid then success else failure),
        { store :=
            if saved then ((History.append context.capacity result).perform session.store).2
            else session.store
          output := session.output ++ printed result json ++ "\n"
          messages }) := by
  unfold settle
  cases saved with
  | true =>
    obtain ⟨first, remembered⟩ := start_remember context result session
    obtain ⟨messages, shown⟩ := start_present result json
      { session with
        store := ((History.append context.capacity result).perform session.store).2
        messages := first }
    exact ⟨messages, (start_bind_ok remembered _).trans shown⟩
  | false => exact start_present result json session

theorem start_generate {id : String} {template : Template}
    (found : Catalog.builtin.find? id = some template) (assignments : List (String × String))
    (strict save json : Bool) (session : Session) :
    let preferences : Preferences := load session.store
    let result := template.synthesize (chosenBindings preferences template assignments)
      (strict || context.settings.engine.strict) context.now
    ∃ messages, (generate context id assignments strict save json).start session =
      (.ok (if result.valid then success else failure),
        { store :=
            if save || (preferences.autoSaveHistory && result.valid) then
              ((History.append context.capacity result).perform session.store).2
            else session.store
          output := session.output ++ printed result json ++ "\n"
          messages }) := by
  intro preferences result
  -- What is told on the way changes the messages alone, so the result is saved in the first store.
  obtain ⟨first, loaded⟩ := start_preferences context session
  obtain ⟨second, warned⟩ := tells_warnings context id template assignments
    { session with messages := first }
  obtain ⟨third, noted⟩ := tells_log context (template.synthesisNote result)
    { session with messages := second }
  rw [generate_eq, start_bind_ok (start_template found session), start_bind_ok loaded,
    start_bind_ok warned]
  dsimp only
  rw [start_bind_ok noted]
  obtain ⟨fourth, warned⟩ := (tells_message (dangerLine template)).start_ite
    ((preferences.showDangerWarnings && !json && template.dangerLevel ≠ .safe) = true)
    (fun _ => settle context result (save || (preferences.autoSaveHistory && result.valid)) json)
    { session with messages := third }
  obtain ⟨messages, settled⟩ := start_settle context result
    (save || (preferences.autoSaveHistory && result.valid)) json { session with messages := fourth }
  exact ⟨messages, warned.trans settled⟩

end CommandSynthesis.CommandLine
