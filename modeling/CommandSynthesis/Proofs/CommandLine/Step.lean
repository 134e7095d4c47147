import CommandSynthesis.CommandLine.Run
import CommandSynthesis.Proofs.Store.Within

set_option autoImplicit false

/-!
# Parts of a command

What a part of a command leaves of a session. Some parts only add messages; the others change the
store by actions alone, so what these keep is kept by the command.
-/

namespace CommandSynthesis.CommandLine.Step

variable {α β : Type} {session after : Session}

/-- How a step ends, and the session afterwards. -/
def start (step : Step α) (session : Session) : Except Complaint α × Session :=
  StateT.run (ExceptT.run step) session

theorem start_bind_ok {step : Step α} {value : α}
    (started : step.start session = (.ok value, after)) (next : α → Step β) :
    (step >>= next).start session = (next value).start after :=
  run_bind_ok started next

theorem start_bind_error {step : Step α} {complaint : Complaint}
    (started : step.start session = (.error complaint, after)) (next : α → Step β) :
    (step >>= next).start session = (.error complaint, after) :=
  run_bind_error started next

theorem start_get (session : Session) :
    (get : Step Session).start session = (.ok session, session) := rfl

theorem start_perform (action : Action FileStore α) (session : Session) :
    (perform action).start session = (.ok (action.perform session.store).1,
      { session with store := (action.perform session.store).2 }) := rfl

/-! ## Messages -/

/-- A step that changes the messages of a session alone. -/
def Tells (step : Step Unit) : Prop :=
  ∀ session, ∃ messages, step.start session = (.ok (), { session with messages })

theorem tells_pure : Tells (pure ()) := fun session => ⟨session.messages, rfl⟩

theorem tells_message (text : String) : Tells (message text) := fun session =>
  ⟨session.messages ++ text ++ "\n", rfl⟩

theorem Tells.start_bind {step : Step Unit} (tells : Tells step) (next : Unit → Step β)
    (session : Session) :
    ∃ messages, (step >>= next).start session = (next ()).start { session with messages } := by
  obtain ⟨messages, told⟩ := tells session
  exact ⟨messages, start_bind_ok told next⟩

theorem Tells.bind {step : Step Unit} {next : Unit → Step Unit} (first : Tells step)
    (second : Tells (next ())) : Tells (step >>= next) := by
  intro session
  obtain ⟨middle, started⟩ := first.start_bind next session
  obtain ⟨messages, told⟩ := second { session with messages := middle }
  exact ⟨messages, started.trans told⟩

theorem tells_forM {list : List α} {f : α → Step Unit} (each : ∀ entry, Tells (f entry)) :
    Tells (list.forM f) := by
  induction list with
  | nil => exact tells_pure
  | cons entry list ih => exact (each entry).bind ih

theorem tells_messages (texts : List String) : Tells (messages texts) :=
  tells_forM tells_message

variable (context : Context)

theorem tells_log (event : Log.Event) : Tells (log context event) := by
  unfold log
  split
  · exact tells_message _
  · exact tells_pure

theorem tells_note (notes : FileStore → List Log.Event) : Tells (note context notes) := by
  intro session
  have all : Tells ((notes session.store).forM (log context)) := tells_forM (tells_log context)
  obtain ⟨messages, told⟩ := all session
  exact ⟨messages, (start_bind_ok (start_get session) _).trans told⟩

theorem tells_forIn {list : List α} {f : α → Unit → Step (ForInStep Unit)}
    (each : ∀ entry session, ∃ messages,
      (f entry ()).start session = (.ok (.yield ()), { session with messages })) :
    Tells (forIn list () f) := by
  induction list with
  | nil => exact tells_pure
  | cons entry list ih =>
    intro session
    obtain ⟨middle, started⟩ := each entry session
    obtain ⟨messages, told⟩ := ih { session with messages := middle }
    refine ⟨messages, ?_⟩
    rw [List.forIn_cons, start_bind_ok started]
    exact told

/-- Whether or not something is told, what follows is the same. -/
theorem Tells.start_ite {step : Step Unit} (tells : Tells step) (told : Prop) [Decidable told]
    (next : Unit → Step β) (session : Session) :
    ∃ messages, (if told then step >>= next else next ()).start session =
      (next ()).start { session with messages } := by
  split
  · exact tells.start_bind next session
  · exact ⟨session.messages, rfl⟩

theorem tells_greet : Tells (greet context) := by
  intro session
  obtain ⟨first, told⟩ := tells_log context
    ⟨.info, .commands, "Using data directory " ++ session.store.directory⟩ session
  obtain ⟨second, noted⟩ := (tells_note context (StoredDocument.loadNotes Preferences)).start_ite
    (context.settings.engine.historyCapacity.isNone = true)
    (fun _ => log context ⟨.info, .commands,
      "Loaded " ++ Decimal.ofNat Catalog.builtin.size ++ " templates"⟩)
    { session with messages := first }
  obtain ⟨messages, last⟩ := tells_log context ⟨.info, .commands,
    "Loaded " ++ Decimal.ofNat Catalog.builtin.size ++ " templates"⟩
    { session with messages := second }
  refine ⟨messages, ?_⟩
  unfold greet
  rw [start_bind_ok (start_get session), start_bind_ok told]
  exact noted.trans last

theorem tree_ofSession (step : Step Nat) (session : Session) :
    (Outcome.ofSession step session).tree = (step.start session).2.store.tree := by
  unfold Outcome.ofSession Step.start
  cases StateT.run (ExceptT.run step) session with
  | mk result after => cases result <;> rfl

theorem ofSession_of_ok {step : Step Nat} {status : Nat}
    (started : step.start session = (.ok status, after)) :
    Outcome.ofSession step session =
      ⟨status, after.output, after.messages, after.store.tree⟩ := by
  unfold Outcome.ofSession
  unfold Step.start at started
  rw [started]

theorem ofSession_of_start {step other : Step Nat} {start : Session}
    (same : step.start session = other.start start) :
    Outcome.ofSession step session = Outcome.ofSession other start := by
  unfold Outcome.ofSession
  unfold Step.start at same
  rw [same]

/-! ## The store -/

variable {kept : FileStore → Prop}

/-- However a step ends, it keeps something that holds of the store. -/
def Keeps (kept : FileStore → Prop) (step : Step α) : Prop :=
  ∀ session, kept session.store → kept (step.start session).2.store

theorem keeps_pure (value : α) : Keeps kept (pure value : Step α) := fun _ held => held

theorem keeps_throw (complaint : Complaint) : Keeps kept (throw complaint : Step α) :=
  fun _ held => held

theorem keeps_get : Keeps kept (get : Step Session) := fun _ held => held

theorem keeps_line (text : String) : Keeps kept (line text) := fun _ held => held

theorem Tells.keeps {step : Step Unit} (tells : Tells step) : Keeps kept step := by
  intro session held
  obtain ⟨messages, told⟩ := tells session
  rw [told]
  exact held

theorem Keeps.bind {step : Step α} {next : α → Step β} (first : Keeps kept step)
    (second : ∀ value, Keeps kept (next value)) : Keeps kept (step >>= next) := by
  intro session held
  have middle := first session held
  cases started : step.start session with
  | mk outcome after =>
  rw [started] at middle
  cases outcome with
  | error complaint =>
    rw [start_bind_error started]
    exact middle
  | ok value =>
    rw [start_bind_ok started]
    exact second value after middle

theorem keeps_ite {first second : Step α} {chosen : Prop} [Decidable chosen]
    (yes : Keeps kept first) (no : Keeps kept second) :
    Keeps kept (if chosen then first else second) := by
  split
  · exact yes
  · exact no

theorem keeps_lines (texts : List String) : Keeps kept (lines texts) := by
  induction texts with
  | nil => exact keeps_pure ()
  | cons text texts ih => exact (keeps_line text).bind fun _ => ih

theorem keeps_perform {action : Action FileStore α}
    (keeps : ∀ store, kept store → kept (action.perform store).2) : Keeps kept (perform action) :=
  fun session held => keeps session.store held

theorem keeps_require {action : Action FileStore α}
    (keeps : ∀ store, kept store → kept (action.perform store).2) (complain : Failure → Complaint) :
    Keeps kept (require action complain) := by
  refine (keeps_perform keeps).bind fun outcome => ?_
  cases outcome with
  | ok value => exact keeps_pure value
  | error failure => exact keeps_throw _

end CommandSynthesis.CommandLine.Step
