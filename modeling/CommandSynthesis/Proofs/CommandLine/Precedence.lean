import CommandSynthesis.CommandLine.Run
import CommandSynthesis.Proofs.Synthesis.Locality
import Mathlib.Data.List.TakeDrop
import Mathlib.Data.List.TakeWhile

set_option autoImplicit false

/-!
# Where a value comes from

The value of an input is the one that the last assignment to its name gives, even an empty one, then
the preferred one for the name, then the default of the input, and else empty. Preferred values are
as good as defaults: they change the command as it would be changed by a template with other
defaults.
-/

namespace CommandSynthesis

namespace Bindings

/-- A name has the value that is given last. -/
theorem find?_foldl_insert (entries : List (String × String)) (bindings : Bindings)
    (name : String) :
    (entries.foldl (fun bindings entry => bindings.insert entry.1 entry.2) bindings).find? name =
      (entries.reverse.lookup name).or (bindings.find? name) := by
  induction entries generalizing bindings with
  | nil => rfl
  | cons entry entries ih =>
    obtain ⟨key, value⟩ := entry
    rw [List.foldl_cons, ih, find?_insert, List.reverse_cons, List.lookup_append, Option.or_assoc]
    congr 1
    by_cases same : name = key
    · simp [same]
    · simp [same, List.lookup_cons, beq_false_of_ne same]

theorem find?_ofList (entries : List (String × String)) (name : String) :
    (ofList entries).find? name = entries.reverse.lookup name := by
  rw [ofList, find?_foldl_insert]
  exact Option.or_none

end Bindings

theorem Input.value_eq (input : Input) (bindings : Bindings) :
    input.value bindings = ((bindings.find? input.name).or input.defaultValue).getD "" := by
  unfold value
  cases bindings.find? input.name <;> rfl

namespace Preferences

/-- The default of an input, with the preferred value for its name in its place. -/
def preset (preferences : Preferences) (input : Input) : Option String :=
  if input.name = "sid" then some preferences.defaultSid
  else if input.name = "instanceNumber" then some preferences.defaultInstanceNumber
  else input.defaultValue

theorem preset_eq (preferences : Preferences) (input : Input) :
    preferences.preset input = (preferences.defaults.lookup input.name).or input.defaultValue := by
  unfold preset defaults
  by_cases sid : input.name = "sid"
  · simp [sid]
  · by_cases number : input.name = "instanceNumber"
    · simp [number, List.lookup_cons]
    · simp [sid, number, List.lookup_cons, beq_false_of_ne]

theorem find?_applyDefault {template : Template} {name : String}
    (known : (template.findInput? name).isSome = true) (bindings : Bindings) (key value : String) :
    (applyDefault template bindings key value).find? name =
      (bindings.find? name).or (if name = key then some value else none) := by
  unfold applyDefault
  by_cases same : name = key
  · subst same
    cases given : bindings.find? name with
    | none => simp [known, Bindings.find?_insert]
    | some old => simp [given]
  · rw [if_neg same, Option.or_none]
    split
    · rw [Bindings.find?_insert, if_neg same]
    · rfl

/-- An input has the value it was given, else the preferred one for its name. -/
theorem find?_applyDefaults (preferences : Preferences) {template : Template} {name : String}
    (known : (template.findInput? name).isSome = true) (bindings : Bindings) :
    (preferences.applyDefaults template bindings).find? name =
      (bindings.find? name).or (preferences.defaults.lookup name) := by
  unfold applyDefaults
  induction preferences.defaults generalizing bindings with
  | nil => exact Option.or_none.symm
  | cons preferred defaults ih =>
    obtain ⟨key, value⟩ := preferred
    rw [List.foldl_cons, ih, find?_applyDefault known, Option.or_assoc]
    congr 1
    by_cases same : name = key
    · simp [same]
    · simp [same, List.lookup_cons, beq_false_of_ne same]

end Preferences

namespace Template

theorem isSome_findInput? (template : Template) {input : Input} (member : input ∈ template.inputs) :
    (template.findInput? input.name).isSome = true :=
  List.find?_isSome.2 ⟨input, member, beq_self_eq_true input.name⟩

/-- The template with other defaults for its inputs. -/
def withDefaults (template : Template) (default : Input → Option String) : Template :=
  { template with
    inputs := template.inputs.map fun input => { input with defaultValue := default input } }

theorem boundInput?_withDefaults (template : Template) (default : Input → Option String)
    (name : String) :
    (template.withDefaults default).boundInput? name =
      (template.boundInput? name).map fun input => { input with defaultValue := default input } := by
  unfold boundInput? withDefaults
  rw [← List.map_reverse, List.find?_map]
  rfl

/-- Other defaults and other values come to the same if each input has the value it had. -/
theorem synthesize_withDefaults {template : Template} {default : Input → Option String}
    {left right : Bindings}
    (same : ∀ input ∈ template.inputs,
      { input with defaultValue := default input }.value right = input.value left)
    (strict : Bool) (now : Instant) :
    (template.withDefaults default).synthesize right strict now =
      template.synthesize left strict now := by
  have text : (template.withDefaults default).text = template.text := rfl
  have id : (template.withDefaults default).id = template.id := rfl
  refine synthesize_congr text (fun name _ => ?_) id ?_ strict now
  · unfold boundPiece?
    rw [boundInput?_withDefaults, Option.map_map]
    refine Option.map_congr fun input bound => ?_
    have value := same input (mem_inputs_of_boundInput? bound)
    simp only [Function.comp, Input.piece, value]
    rfl
  · unfold inputErrors withDefaults
    rw [List.filterMap_map]
    refine List.filterMap_congr fun input member => ?_
    simp only [Function.comp, Input.error?, same input member]
    rfl

end Template

namespace CommandLine

/-! ## Assignments -/

/-- Up to its first equals sign the text is the name, and after it the value. -/
def Assigns (text name value : String) : Prop :=
  '=' ∉ name.toList ∧ text.toList = name.toList ++ '=' :: value.toList

theorem assigns_iff_span {text name value : String} :
    Assigns text name value ↔ text.toList.span (· ≠ '=') = (name.toList, '=' :: value.toList) := by
  rw [List.span_eq_takeWhile_dropWhile]
  constructor
  · intro ⟨plain, split⟩
    have front : ∀ c ∈ name.toList, decide (c ≠ '=') = true := by
      intro c member
      exact decide_eq_true fun equals => plain (equals ▸ member)
    rw [split, List.takeWhile_append_of_pos front, List.dropWhile_append_of_pos front]
    simp
  · intro spanned
    obtain ⟨taken, dropped⟩ := Prod.mk.inj spanned
    refine ⟨fun member => ?_, ?_⟩
    · rw [← taken] at member
      simpa using List.mem_takeWhile_imp member
    · rw [← taken, ← dropped, List.takeWhile_append_dropWhile]

theorem Assigns.unique {text name other value second : String} (first : Assigns text name value)
    (again : Assigns text other second) : name = other ∧ value = second := by
  have same := (assigns_iff_span.1 first).symm.trans (assigns_iff_span.1 again)
  obtain ⟨names, rest⟩ := Prod.mk.inj same
  exact ⟨String.toList_injective names, String.toList_injective (List.tail_eq_of_cons_eq rest)⟩

theorem readAssignment_eq_ok_iff {text name value : String} :
    readAssignment text = .ok (name, value) ↔ name ≠ "" ∧ Assigns text name value := by
  rw [assigns_iff_span]
  unfold readAssignment
  split
  · next spanned =>
    rw [spanned]
    constructor
    · nofun
    · intro ⟨_, same⟩
      cases (Prod.mk.inj same).2
  · next spanned =>
    rw [spanned]
    constructor
    · nofun
    · intro ⟨named, same⟩
      have empty : [] = name.toList := (Prod.mk.inj same).1
      exact absurd (String.toList_eq_nil_iff.1 empty.symm) named
  · next front equals back started spanned =>
    have stop := List.head?_dropWhile_not (fun c => decide (c ≠ '=')) text.toList
    have dropped := (Prod.mk.inj ((List.span_eq_takeWhile_dropWhile _ _).symm.trans spanned)).2
    rw [dropped] at stop
    obtain rfl : equals = '=' := by simpa using stop
    rw [spanned]
    constructor
    · intro read
      cases read
      simpa [String.ofList_eq_empty_iff] using started
    · intro ⟨_, same⟩
      obtain ⟨names, rest⟩ := Prod.mk.inj same
      rw [names, List.tail_eq_of_cons_eq rest, String.ofList_toList, String.ofList_toList]

theorem Assigns.first_equals {text name value : String} (assigns : Assigns text name value) :
    text.toList.idxOf '=' = name.toList.length := by
  rw [assigns.2, List.idxOf_append_of_notMem assigns.1, List.idxOf_cons_self, Nat.add_zero]

/-- An assignment is accepted if it has an equals sign and the first one is not at its start. -/
theorem exists_readAssignment_iff {text : String} :
    (∃ assignment, readAssignment text = .ok assignment) ↔
      '=' ∈ text.toList ∧ text.toList.idxOf '=' ≠ 0 := by
  constructor
  · intro ⟨(name, value), read⟩
    obtain ⟨named, assigns⟩ := readAssignment_eq_ok_iff.1 read
    refine ⟨by simp [assigns.2], fun start => named ?_⟩
    rw [assigns.first_equals] at start
    exact String.toList_eq_nil_iff.1 (List.eq_nil_of_length_eq_zero start)
  · intro ⟨present, start⟩
    obtain ⟨front, back, split, plain⟩ := List.eq_append_cons_of_mem present
    have assigns : Assigns text (String.ofList front) (String.ofList back) := by
      simpa [Assigns] using ⟨plain, split⟩
    refine ⟨_, readAssignment_eq_ok_iff.2 ⟨fun empty => start ?_, assigns⟩⟩
    rw [assigns.first_equals, empty]
    rfl

/-- No text assigns anything to the name. -/
def Unassigned (texts : List String) (name : String) : Prop :=
  ∀ text ∈ texts, ∀ value, ¬ Assigns text name value

/-- The last text that assigns anything to the name assigns the value. -/
def LastAssigned (texts : List String) (name value : String) : Prop :=
  ∃ front text back, texts = front ++ text :: back ∧ Assigns text name value ∧ Unassigned back name

theorem unassigned_cons_iff {text : String} {texts : List String} {name : String} :
    Unassigned (text :: texts) name ↔
      (∀ value, ¬ Assigns text name value) ∧ Unassigned texts name :=
  List.forall_mem_cons

theorem lastAssigned_cons_iff {text : String} {texts : List String} {name value : String} :
    LastAssigned (text :: texts) name value ↔
      LastAssigned texts name value ∨ Assigns text name value ∧ Unassigned texts name := by
  constructor
  · intro ⟨front, last, back, split, assigns, silent⟩
    cases front with
    | nil =>
      cases split
      exact .inr ⟨assigns, silent⟩
    | cons first front =>
      cases split
      exact .inl ⟨front, last, back, rfl, assigns, silent⟩
  · intro found
    cases found with
    | inl later =>
      obtain ⟨front, last, back, rfl, assigns, silent⟩ := later
      exact ⟨text :: front, last, back, rfl, assigns, silent⟩
    | inr here => exact ⟨[], text, texts, rfl, here.1, here.2⟩

theorem LastAssigned.not_unassigned {texts : List String} {name value : String}
    (last : LastAssigned texts name value) : ¬ Unassigned texts name := by
  obtain ⟨front, text, back, rfl, assigns, _⟩ := last
  intro silent
  exact silent text (List.mem_append_right front List.mem_cons_self) value assigns

theorem LastAssigned.unique {texts : List String} {name value other : String}
    (last : LastAssigned texts name value) (again : LastAssigned texts name other) :
    value = other := by
  induction texts with
  | nil =>
    obtain ⟨front, text, back, split, _⟩ := last
    simp at split
  | cons text texts ih =>
    cases lastAssigned_cons_iff.1 last with
    | inl later =>
      cases lastAssigned_cons_iff.1 again with
      | inl laterAgain => exact ih later laterAgain
      | inr here => exact absurd here.2 later.not_unassigned
    | inr here =>
      cases lastAssigned_cons_iff.1 again with
      | inl later => exact absurd here.2 later.not_unassigned
      | inr hereAgain => exact (here.1.unique hereAgain.1).2

/-- The assignments that are read have the value that was assigned last, or none. -/
theorem lookup_assignments {texts : List String}
    (accepted : ∀ text ∈ texts, ∃ assignment, readAssignment text = .ok assignment)
    (name : String) :
    match (assignments texts).reverse.lookup name with
    | some value => LastAssigned texts name value
    | none => Unassigned texts name := by
  induction texts with
  | nil => exact fun _ absent => nomatch absent
  | cons text texts ih =>
    obtain ⟨⟨⟨key, value⟩, read⟩, others⟩ := List.forall_mem_cons.1 accepted
    have rest := ih others
    have assigns := (readAssignment_eq_ok_iff.1 read).2
    have split : (assignments (text :: texts)).reverse =
        (assignments texts).reverse ++ [(key, value)] := by
      simp [assignments, read, Except.toOption]
    rw [split, List.lookup_append]
    -- What the later texts assign goes before what the text at hand does.
    cases found : (assignments texts).reverse.lookup name with
    | some later =>
      rw [found] at rest
      exact lastAssigned_cons_iff.2 (.inl rest)
    | none =>
      rw [found] at rest
      by_cases same : name = key
      · subst same
        simpa using lastAssigned_cons_iff.2 (.inr ⟨assigns, rest⟩)
      · have other (second : String) : ¬ Assigns text name second :=
          fun again => same (again.unique assigns).1
        simpa [List.lookup_cons, beq_false_of_ne same] using unassigned_cons_iff.2 ⟨other, rest⟩

/-- The values that an input takes from assignments, preferences and its default. -/
inductive Takes (preferences : Preferences) (texts : List String) (input : Input) : String → Prop
  | assigned {value : String} : LastAssigned texts input.name value →
      Takes preferences texts input value
  | preferredSid : Unassigned texts input.name → input.name = "sid" →
      Takes preferences texts input preferences.defaultSid
  | preferredNumber : Unassigned texts input.name → input.name = "instanceNumber" →
      Takes preferences texts input preferences.defaultInstanceNumber
  | default {value : String} : Unassigned texts input.name → input.name ≠ "sid" →
      input.name ≠ "instanceNumber" → input.defaultValue = some value →
      Takes preferences texts input value
  | nothing : Unassigned texts input.name → input.name ≠ "sid" →
      input.name ≠ "instanceNumber" → input.defaultValue = none →
      Takes preferences texts input ""

section Chosen

variable {preferences : Preferences} {template : Template} {texts : List String} {input : Input}

theorem value_chosenBindings (preferences : Preferences) (texts : List String)
    (member : input ∈ template.inputs) :
    input.value (chosenBindings preferences template (assignments texts)) =
      (((assignments texts).reverse.lookup input.name).or (preferences.preset input)).getD "" := by
  have known := template.isSome_findInput? member
  rw [Input.value_eq, chosenBindings, preferences.find?_applyDefaults known, Bindings.find?_ofList,
    Option.or_assoc, ← preferences.preset_eq]

theorem takes_preset (silent : Unassigned texts input.name) :
    Takes preferences texts input ((preferences.preset input).getD "") := by
  unfold Preferences.preset
  split
  · next sid => exact .preferredSid silent sid
  · next other =>
    split
    · next number => exact .preferredNumber silent number
    · next third =>
      cases default : input.defaultValue with
      | none => exact .nothing silent other third default
      | some value => exact .default silent other third default

theorem value_chosenBindings_eq_iff
    (accepted : ∀ text ∈ texts, ∃ assignment, readAssignment text = .ok assignment)
    (member : input ∈ template.inputs) {value : String} :
    input.value (chosenBindings preferences template (assignments texts)) = value ↔
      Takes preferences texts input value := by
  have looked := lookup_assignments accepted input.name
  rw [value_chosenBindings preferences texts member]
  cases found : (assignments texts).reverse.lookup input.name with
  | some last =>
    rw [found] at looked
    rw [Option.some_or, Option.getD_some]
    constructor
    · intro same
      exact same ▸ .assigned looked
    · intro takes
      cases takes with
      | assigned again => exact looked.unique again
      | preferredSid silent | preferredNumber silent | default silent | nothing silent =>
        exact absurd silent looked.not_unassigned
  | none =>
    rw [found] at looked
    rw [Option.none_or]
    constructor
    · intro same
      exact same ▸ takes_preset looked
    · intro takes
      cases takes with
      | assigned last => exact absurd looked last.not_unassigned
      | preferredSid _ sid => simp [Preferences.preset, sid]
      | preferredNumber _ number => simp [Preferences.preset, number]
      | default _ sid number default => simp [Preferences.preset, sid, number, default]
      | nothing _ sid number default => simp [Preferences.preset, sid, number, default]

end Chosen

/-- What is made of a template on the command line is made of the values that its inputs take from
the accepted assignments, the preferences and their defaults, in this order: these are validated and
written into the command. Preferred values count as defaults of the inputs with their names. -/
theorem value_precedence (preferences : Preferences) (template : Template) (texts : List String)
    (accepted : ∀ text ∈ texts, ∃ assignment, readAssignment text = .ok assignment) :
    let chosen := chosenBindings preferences template (assignments texts)
    (∀ input ∈ template.inputs, ∀ value,
        input.value chosen = value ↔ Takes preferences texts input value) ∧
      (∀ values : Input → String,
        (∀ input ∈ template.inputs, Takes preferences texts input (values input)) →
        template.MadeOf values chosen ∧
          ∀ strict now, template.synthesize chosen strict now =
            (template.withDefaults fun input => some (values input)).synthesize .empty strict
              now) ∧
      (∀ bindings strict now,
        template.synthesize (preferences.applyDefaults template bindings) strict now =
          (template.withDefaults preferences.preset).synthesize bindings strict now) ∧
      ∀ text, ((∃ assignment, readAssignment text = .ok assignment) ↔
          '=' ∈ text.toList ∧ text.toList.idxOf '=' ≠ 0) ∧
        ∀ name value, readAssignment text = .ok (name, value) ↔
          name ≠ "" ∧ Assigns text name value := by
  intro chosen
  refine ⟨?_, ?_, ?_, ?_⟩
  · intro input member value
    exact value_chosenBindings_eq_iff accepted member
  · intro values takes
    have same : ∀ input ∈ template.inputs, input.value chosen = values input :=
      fun input member => (value_chosenBindings_eq_iff accepted member).2 (takes input member)
    refine ⟨Template.madeOf_of_value_eq same, fun strict now => ?_⟩
    refine (Template.synthesize_withDefaults (fun input member => ?_) strict now).symm
    exact (same input member).symm
  · intro bindings strict now
    refine (Template.synthesize_withDefaults (fun input member => ?_) strict now).symm
    have known := template.isSome_findInput? member
    rw [Input.value_eq, Input.value_eq, preferences.find?_applyDefaults known, Option.or_assoc,
      preferences.preset_eq]
  · intro text
    exact ⟨exists_readAssignment_iff, fun name value => readAssignment_eq_ok_iff⟩

/-- A logon whose inputs have defaults, one of them twice. -/
def logon : Template where
  id := "logon"
  name := "Log on"
  category := "system"
  inputs := [
    { name := "sid", label := "System", defaultValue := some "XYZ" },
    { name := "instanceNumber", label := "Instance", defaultValue := some "99" },
    { name := "path", label := "Path", defaultValue := some "/tmp" },
    { name := "user", label := "User", defaultValue := some "root" },
    { name := "user", label := "Other user", defaultValue := some "adm" }]
  text := "logon \x7bsid\x7d \x7binstanceNumber\x7d \x7bpath\x7d \x7buser\x7d"

theorem value_precedence_logon :
    let texts := ["path=/a", "sid=A=B", "unknown=1", "path="]
    let chosen := chosenBindings {} logon (assignments texts)
    (∀ text ∈ texts, ∃ assignment, readAssignment text = .ok assignment) ∧
      (∀ input ∈ logon.inputs, Takes {} texts input (input.value chosen)) ∧
      logon.inputs.map (·.value chosen) = ["A=B", "00", "", "root", "adm"] ∧
      logon.MadeOf (·.value chosen) chosen ∧
      (∀ strict now,
        (logon.withDefaults fun input => some (input.value chosen)).synthesize .empty strict now =
          logon.synthesize chosen strict now) ∧
      (logon.withDefaults (Preferences.preset {})).command (.ofList (assignments texts)) =
        "logon 'A=B' '00' '' 'adm'" ∧
      readAssignment "=value" ≠ .ok ("", "value") := by
  intro texts chosen
  have accepted : ∀ text ∈ texts, ∃ assignment, readAssignment text = .ok assignment := by
    simp only [texts, List.forall_mem_cons]
    exact ⟨⟨_, rfl⟩, ⟨_, rfl⟩, ⟨_, rfl⟩, ⟨_, rfl⟩, nofun⟩
  obtain ⟨values, engine, preset, reading⟩ := value_precedence {} logon texts accepted
  have takes : ∀ input ∈ logon.inputs, Takes {} texts input (input.value chosen) :=
    fun input member => (values input member _).1 rfl
  have command := congrArg Synthesis.command (preset (.ofList (assignments texts)) false .epoch)
  obtain ⟨made, same⟩ := engine _ takes
  refine ⟨accepted, takes, by decide +kernel, made, fun strict now => (same strict now).symm,
    command.symm.trans (by decide +kernel), fun read => ?_⟩
  exact (((reading "=value").2 "" "value").1 read).1 rfl

end CommandLine

end CommandSynthesis
