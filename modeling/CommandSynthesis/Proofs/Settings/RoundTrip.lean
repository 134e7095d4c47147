import CommandSynthesis.Proofs.Toml.Document
import CommandSynthesis.Settings.File
import Mathlib

set_option autoImplicit false

/-!
# The settings file is read back

Settings that were written are read back, whatever characters they hold. A document that leaves out
tables or keys gives the defaults for these and what it says for all others.
-/

namespace CommandSynthesis

open Toml

namespace Settings

/-! ## What a document says -/

/-- The members of a table of a document; none if it has no such table. -/
def fieldsOf (members : Members) (name : String) : Members :=
  match members.lookup name with
  | some (.table fields) => fields
  | _ => []

/-- What a document has under the names of the tables for settings are tables. -/
def IsTabular (members : Members) : Prop :=
  ∀ name ∈ ["store", "log", "engine"], ∀ value, members.lookup name = some value →
    ∃ fields, value = .table fields

/-- A setting is what is given for it, or its default if nothing is given. -/
inductive Fills {α : Type} (means : Value → α → Prop) (default : α) : Option Value → α → Prop
  | given {value : Value} {setting : α} : means value setting →
      Fills means default (some value) setting
  | omitted : Fills means default none default

def IsText (value : Value) (text : String) : Prop :=
  value = .string text

def IsFlag (value : Value) (flag : Bool) : Prop :=
  value = .bool flag

def IsCapacity (value : Value) (capacity : Option Nat) : Prop :=
  ∃ n : Nat, value = .integer n ∧ capacity = some n

/-- Each setting is what the members of a document give for it, or its default. -/
structure Follows (environment : Environment) (members : Members) (settings : Settings) : Prop where
  dataDirectory : Fills IsText environment.dataDirectory
    ((fieldsOf members "store").lookup "data_dir") settings.store.dataDirectory
  level : Fills IsText "warn" ((fieldsOf members "log").lookup "level") settings.log.level
  strict : Fills IsFlag false ((fieldsOf members "engine").lookup "strict") settings.engine.strict
  capacity : Fills IsCapacity none ((fieldsOf members "engine").lookup "history_capacity")
    settings.engine.historyCapacity

theorem fills_none_iff {α : Type} {means : Value → α → Prop} {default setting : α} :
    Fills means default none setting ↔ setting = default :=
  ⟨fun fills => by cases fills; rfl, fun same => same ▸ .omitted⟩

theorem text?_eq_some_iff {value : Value} {text : String} :
    value.text? = some text ↔ IsText value text := by
  unfold Value.text? IsText
  cases value <;> simp

theorem bool?_eq_some_iff {value : Value} {flag : Bool} :
    value.bool? = some flag ↔ IsFlag value flag := by
  unfold Value.bool? IsFlag
  cases value <;> simp

theorem natural?_eq_some_iff {value : Value} {capacity : Option Nat} :
    value.natural?.map some = some capacity ↔ IsCapacity value capacity := by
  unfold Value.natural? IsCapacity
  cases value with
  | integer n =>
    by_cases natural : 0 ≤ n
    · obtain ⟨n, rfl⟩ := Int.eq_ofNat_of_zero_le natural
      simp only [if_pos natural, Int.toNat_natCast, Option.map_some, Option.some.injEq,
        Value.integer.injEq, Int.natCast_inj]
      exact ⟨fun same => ⟨n, rfl, same.symm⟩, fun ⟨_, same, result⟩ => same ▸ result.symm⟩
    · have none (other : Nat) : n ≠ other := by omega
      simp [natural, none]
  | _ => simp

theorem read?_eq_some_iff {α : Type} {convert : Value → Option α} {means : Value → α → Prop}
    (agree : ∀ value setting, convert value = some setting ↔ means value setting)
    {members : Members} {name : String} {default setting : α} :
    members.read? name convert default = some setting ↔
      Fills means default (members.lookup name) setting := by
  unfold Members.read?
  cases members.lookup name with
  | none => rw [fills_none_iff, Option.some.injEq, eq_comm]
  | some value =>
    rw [agree]
    exact ⟨.given, fun fills => by cases fills; assumption⟩

/-- A table that is missing counts as an empty one. -/
theorem IsTabular.read?_table {members : Members} (tabular : IsTabular members) {name : String}
    (known : name ∈ ["store", "log", "engine"]) {α : Type} {convert : Value → Option α}
    {default : α} (empty : convert (.table []) = some default) :
    members.read? name convert default = convert (.table (fieldsOf members name)) := by
  unfold Members.read? fieldsOf
  cases found : members.lookup name with
  | none => exact empty.symm
  | some value =>
    obtain ⟨fields, rfl⟩ := tabular name known value found
    rfl

theorem ofToml?_storage_iff {environment : Environment} {fields : Members} {storage : Storage} :
    Storage.ofToml? environment (.table fields) = some storage ↔
      Fills IsText environment.dataDirectory (fields.lookup "data_dir") storage.dataDirectory := by
  obtain ⟨directory⟩ := storage
  rw [← read?_eq_some_iff fun _ _ => text?_eq_some_iff]
  simp [Storage.ofToml?, Value.fields?, Option.bind_eq_some_iff]

theorem ofToml?_log_iff {fields : Members} {log : Log} :
    Log.ofToml? (.table fields) = some log ↔
      Fills IsText "warn" (fields.lookup "level") log.level := by
  obtain ⟨level⟩ := log
  rw [← read?_eq_some_iff fun _ _ => text?_eq_some_iff]
  simp [Log.ofToml?, Value.fields?, Option.bind_eq_some_iff]

theorem ofToml?_engine_iff {fields : Members} {engine : Engine} :
    Engine.ofToml? (.table fields) = some engine ↔
      Fills IsFlag false (fields.lookup "strict") engine.strict ∧
        Fills IsCapacity none (fields.lookup "history_capacity") engine.historyCapacity := by
  obtain ⟨strict, capacity⟩ := engine
  rw [← read?_eq_some_iff fun _ _ => bool?_eq_some_iff,
    ← read?_eq_some_iff fun _ _ => natural?_eq_some_iff]
  simp [Engine.ofToml?, Value.fields?, Option.bind_eq_some_iff]

theorem parse?_eq_some_iff {environment : Environment} {text : String} {members : Members}
    (parsed : Toml.parse? text = some members) (tabular : IsTabular members) {settings : Settings} :
    parse? environment text = some settings ↔ Follows environment members settings := by
  have store : members.read? "store" (Storage.ofToml? environment) (.default environment) =
      Storage.ofToml? environment (.table (fieldsOf members "store")) :=
    tabular.read?_table (by decide) rfl
  have log : members.read? "log" Log.ofToml? {} = Log.ofToml? (.table (fieldsOf members "log")) :=
    tabular.read?_table (by decide) rfl
  have engine : members.read? "engine" Engine.ofToml? {} =
      Engine.ofToml? (.table (fieldsOf members "engine")) :=
    tabular.read?_table (by decide) rfl
  rw [parse?, parsed]
  simp only [Option.bind_eq_bind, Option.bind_some, Settings.default, store, log, engine,
    Option.bind_eq_some_iff]
  constructor
  · intro read
    obtain ⟨storage, readStorage, level, readLog, options, readEngine, made⟩ := read
    cases made
    obtain ⟨strict, capacity⟩ := ofToml?_engine_iff.1 readEngine
    exact ⟨ofToml?_storage_iff.1 readStorage, ofToml?_log_iff.1 readLog, strict, capacity⟩
  · intro follows
    exact ⟨_, ofToml?_storage_iff.2 follows.dataDirectory, _, ofToml?_log_iff.2 follows.level, _,
      ofToml?_engine_iff.2 ⟨follows.strict, follows.capacity⟩, rfl⟩

/-! ## Documents that leave something out -/

/-- Some of the tables for settings, with some of their keys. -/
structure Excerpt where
  store : Option (Option String)
  log : Option (Option String)
  engine : Option (Option Bool × Option Nat)

theorem printNat?_of_lt {n : Nat} (fits : n < 0x8000000000000000) :
    printNat? n = some (Decimal.ofNat n) := by
  rw [printNat?, if_pos fits]

/-- The member for what may be left out. -/
def optional {α β : Type} (name : String) (make : α → β) (given : Option α) : List (String × β) :=
  (given.map fun value => (name, make value)).toList

theorem lookup_optional {α β : Type} (name other : String) (make : α → β) (given : Option α) :
    (optional name make given).lookup other = if other = name then given.map make else none := by
  unfold optional
  cases given with
  | none => exact (ite_self none).symm
  | some value =>
    by_cases same : other = name
    · subst same
      rw [if_pos rfl]
      exact List.lookup_cons_self
    · rw [if_neg same]
      exact List.lookup_eq_none_iff.2 (by simpa using same)

/-- The line for a key that may be left out. -/
def line {α : Type} (key : String) (write : α → String) (value : α → Value) (given : Option α) :
    List Entry :=
  (given.map fun setting => ⟨key, write setting, value setting⟩).toList

namespace Excerpt

/-- The settings that an excerpt makes, with the defaults for what it leaves out. -/
def complete (excerpt : Excerpt) (environment : Environment) : Settings where
  store := ⟨excerpt.store.join.getD environment.dataDirectory⟩
  log := ⟨excerpt.log.join.getD "warn"⟩
  engine := {
    strict := (excerpt.engine.bind Prod.fst).getD false
    historyCapacity := excerpt.engine.bind Prod.snd }

def Fits (excerpt : Excerpt) : Prop :=
  ∀ capacity ∈ excerpt.engine.bind Prod.snd, capacity < 0x8000000000000000

def sheets (excerpt : Excerpt) : List Sheet :=
  (excerpt.store.map fun directory =>
    ⟨"store", line "data_dir" printString Value.string directory⟩).toList ++
  (excerpt.log.map fun level => ⟨"log", line "level" printString Value.string level⟩).toList ++
  (excerpt.engine.map fun options => ⟨"engine",
    line "strict" printBool Value.bool options.1 ++
      line "history_capacity" Decimal.ofNat (fun n : Nat => Value.integer n) options.2⟩).toList

def print (excerpt : Excerpt) : String :=
  printSheets excerpt.sheets

/-- The members of the document for an excerpt. -/
def members (excerpt : Excerpt) : Members :=
  optional "store" (fun directory => .table (optional "data_dir" Value.string directory))
      excerpt.store ++
    optional "log" (fun level => .table (optional "level" Value.string level)) excerpt.log ++
    optional "engine" (fun options => .table (optional "strict" Value.bool options.1 ++
      optional "history_capacity" (fun n : Nat => Value.integer n) options.2)) excerpt.engine

variable {excerpt : Excerpt}

theorem map_member_line {α : Type} (key : String) (write : α → String) (value : α → Value)
    (given : Option α) : (line key write value given).map (fun entry => (entry.key, entry.value)) =
      optional key value given := by
  cases given <;> rfl

theorem map_member_sheets : excerpt.sheets.map Sheet.member = excerpt.members := by
  have table {α : Type} (name : String) (entries : α → List Entry) (given : Option α) :
      (given.map fun options => Sheet.mk name (entries options)).toList.map Sheet.member =
        optional name (fun options => .table ((entries options).map fun entry =>
          (entry.key, entry.value))) given := by
    cases given <;> rfl
  simp only [sheets, members, List.map_append, table, map_member_line]

theorem nodup_sheets : (excerpt.sheets.map Sheet.name).Nodup := by
  obtain ⟨store, log, engine⟩ := excerpt
  cases store <;> cases log <;> cases engine <;> simp [sheets]

theorem lookup_store : excerpt.members.lookup "store" =
    excerpt.store.map fun directory => .table (optional "data_dir" Value.string directory) := by
  simp [members, List.lookup_append, lookup_optional]

theorem lookup_log : excerpt.members.lookup "log" =
    excerpt.log.map fun level => .table (optional "level" Value.string level) := by
  simp [members, List.lookup_append, lookup_optional]

theorem lookup_engine : excerpt.members.lookup "engine" =
    excerpt.engine.map fun options => .table (optional "strict" Value.bool options.1 ++
      optional "history_capacity" (fun n : Nat => Value.integer n) options.2) := by
  simp [members, List.lookup_append, lookup_optional]

theorem isTabular_members : IsTabular excerpt.members := by
  have table {α : Type} {fields : α → Members} {given : Option α} {value : Value}
      (found : (given.map fun options => Value.table (fields options)) = some value) :
      ∃ fields, value = .table fields := by
    obtain ⟨options, _, rfl⟩ := Option.map_eq_some_iff.1 found
    exact ⟨_, rfl⟩
  intro name known value found
  simp only [List.mem_cons, List.not_mem_nil, or_false] at known
  rcases known with rfl | rfl | rfl
  · exact table (lookup_store.symm.trans found)
  · exact table (lookup_log.symm.trans found)
  · exact table (lookup_engine.symm.trans found)

theorem fills_map {α β : Type} {means : Value → α → Prop} {default : α} {make : β → Value}
    (setting : Option β → α) (omitted : setting none = default)
    (meant : ∀ value, means (make value) (setting (some value))) (given : Option β) :
    Fills means default (given.map make) (setting given) := by
  cases given with
  | none => exact omitted ▸ .omitted
  | some value => exact .given (meant value)

theorem follows_complete (environment : Environment) :
    Follows environment excerpt.members (excerpt.complete environment) where
  dataDirectory := by
    have fields : (fieldsOf excerpt.members "store").lookup "data_dir" =
        excerpt.store.join.map Value.string := by
      rw [fieldsOf, lookup_store]
      cases excerpt.store <;> simp [lookup_optional]
    rw [fields]
    exact fills_map (·.getD environment.dataDirectory) rfl (fun _ => rfl) _
  level := by
    have fields : (fieldsOf excerpt.members "log").lookup "level" =
        excerpt.log.join.map Value.string := by
      rw [fieldsOf, lookup_log]
      cases excerpt.log <;> simp [lookup_optional]
    rw [fields]
    exact fills_map (·.getD "warn") rfl (fun _ => rfl) _
  strict := by
    have fields : (fieldsOf excerpt.members "engine").lookup "strict" =
        (excerpt.engine.bind Prod.fst).map Value.bool := by
      rw [fieldsOf, lookup_engine]
      cases excerpt.engine <;> simp [List.lookup_append, lookup_optional]
    rw [fields]
    exact fills_map (·.getD false) rfl (fun _ => rfl) _
  capacity := by
    have fields : (fieldsOf excerpt.members "engine").lookup "history_capacity" =
        (excerpt.engine.bind Prod.snd).map fun n : Nat => Value.integer n := by
      rw [fieldsOf, lookup_engine]
      cases excerpt.engine <;> simp [List.lookup_append, lookup_optional]
    rw [fields]
    exact fills_map id rfl (fun n => ⟨n, rfl, rfl⟩) _

/-! ### The printed document -/

theorem isSound_line {α : Type} {key : String} (bare : IsBareName key) {write : α → String}
    {value : α → Value} {given : Option α}
    (writes : ∀ setting ∈ given, Writes (write setting) (value setting)) :
    ∀ entry ∈ line key write value given, entry.IsSound := by
  intro entry member
  obtain ⟨setting, isGiven, rfl⟩ := Option.map_eq_some_iff.1 (Option.mem_toList.1 member)
  exact ⟨bare, writes setting isGiven⟩

theorem nodup_line {α : Type} (key : String) (write : α → String) (value : α → Value)
    (given : Option α) : ((line key write value given).map Entry.key).Nodup := by
  cases given <;> simp [line]

theorem isSound_sheets (fits : excerpt.Fits) : ∀ sheet ∈ excerpt.sheets, sheet.IsSound := by
  intro sheet member
  simp only [sheets, List.mem_append, Option.mem_toList, Option.map_eq_some_iff] at member
  rcases member with (⟨directory, -, rfl⟩ | ⟨level, -, rfl⟩) | ⟨⟨strict, capacity⟩, given, rfl⟩
  · exact ⟨(by decide : IsBareName "store"),
      isSound_line (by decide) fun text _ => .string text, nodup_line _ _ _ _⟩
  · exact ⟨(by decide : IsBareName "log"),
      isSound_line (by decide) fun text _ => .string text, nodup_line _ _ _ _⟩
  · refine ⟨(by decide : IsBareName "engine"), List.forall_mem_append.2
      ⟨isSound_line (by decide) fun flag _ => .bool flag,
        isSound_line (by decide) fun n isGiven => .natural ?_⟩, ?_⟩
    · exact printNat?_of_lt (fits n (by simp [given, isGiven]))
    · cases strict <;> cases capacity <;> simp [line]

theorem parse?_print (fits : excerpt.Fits) (environment : Environment) :
    parse? environment excerpt.print = some (excerpt.complete environment) := by
  have parsed : Toml.parse? excerpt.print = some excerpt.members := by
    rw [print, parse?_printSheets (isSound_sheets fits) nodup_sheets, map_member_sheets]
  exact (parse?_eq_some_iff parsed isTabular_members).2 (follows_complete environment)

end Excerpt

/-! ## Settings as they are written -/

/-- The excerpt that leaves out no more than a capacity that is not set. -/
def excerpt (settings : Settings) : Excerpt :=
  ⟨some (some settings.store.dataDirectory), some (some settings.log.level),
    some (some settings.engine.strict, settings.engine.historyCapacity)⟩

theorem complete_excerpt (settings : Settings) (environment : Environment) :
    settings.excerpt.complete environment = settings := rfl

theorem print_of_fits {settings : Settings} (fits : settings.excerpt.Fits) :
    print settings = .ok settings.excerpt.print := by
  obtain ⟨⟨directory⟩, ⟨level⟩, ⟨strict, capacity⟩⟩ := settings
  cases capacity with
  | none => rfl
  | some n =>
    have lines : Engine.lines? ⟨strict, some n⟩ = some [printPair "strict" (printBool strict),
        printPair "history_capacity" (Decimal.ofNat n)] := by
      simp only [Engine.lines?, printNat?_of_lt (fits n rfl), Option.map_some]
    simp only [print, lines]
    rfl

theorem fits_of_print {settings : Settings} {text : String} (printed : print settings = .ok text) :
    settings.excerpt.Fits := by
  intro capacity given
  have isGiven : settings.engine.historyCapacity = some capacity := given
  refine Nat.lt_of_not_le fun large => ?_
  have tooLarge : printNat? capacity = none := by rw [printNat?, if_neg (Nat.not_lt.2 large)]
  simp only [print, Engine.lines?, isGiven, tooLarge] at printed
  cases printed

/-- Settings can be written if their capacity is within the integers of a document, and are read
back then, in every environment. A document that has tables, and no other values, under the names
of the tables for settings makes the settings that follow it, if its values fit; in particular one
that leaves out tables or keys makes the settings with the defaults for these. -/
theorem settings_read_back :
    (∀ settings : Settings, (∃ text, print settings = .ok text) ↔
      ∀ capacity ∈ settings.engine.historyCapacity, capacity ≤ 2 ^ 63 - 1) ∧
    (∀ (settings : Settings) (text : String), print settings = .ok text →
      ∀ environment, parse? environment text = some settings) ∧
    (∀ (text : String) (members : Members), Toml.parse? text = some members → IsTabular members →
      ∀ (environment : Environment) (settings : Settings),
        parse? environment text = some settings ↔ Follows environment members settings) ∧
    ∀ excerpt : Excerpt, excerpt.Fits → ∀ environment,
      parse? environment excerpt.print = some (excerpt.complete environment) := by
  refine ⟨fun settings => ?_, fun settings text printed environment => ?_,
    fun _ _ parsed tabular _ _ => parse?_eq_some_iff parsed tabular,
    fun _ fits environment => Excerpt.parse?_print fits environment⟩
  · constructor
    · intro written capacity given
      obtain ⟨text, printed⟩ := written
      have fits := fits_of_print printed capacity given
      omega
    · intro bounded
      refine ⟨_, print_of_fits fun capacity given => ?_⟩
      have bound := bounded capacity given
      omega
  · have fits := fits_of_print printed
    rw [print_of_fits fits] at printed
    cases printed
    have read := Excerpt.parse?_print fits environment
    rwa [complete_excerpt] at read

/-- Settings with quotes and a line end, at the greatest capacity; a document that leaves out a
table and a key; and an excerpt with an empty table. -/
theorem settings_read_back_quotes :
    (print ⟨⟨"a\"\nb"⟩, ⟨"it's"⟩, ⟨true, some (2 ^ 63 - 1)⟩⟩ = .ok
        ("[store]\ndata_dir = \"\"\"\na\"\nb\"\"\"\n\n[log]\nlevel = \"it's\"\n\n" ++
          "[engine]\nstrict = true\nhistory_capacity = 9223372036854775807\n") ∧
      parse? {} ("[store]\ndata_dir = \"\"\"\na\"\nb\"\"\"\n\n[log]\nlevel = \"it's\"\n\n" ++
          "[engine]\nstrict = true\nhistory_capacity = 9223372036854775807\n") =
        some ⟨⟨"a\"\nb"⟩, ⟨"it's"⟩, ⟨true, some (2 ^ 63 - 1)⟩⟩) ∧
    (Toml.parse? "log.level = 'info' # loud\n[engine]\nstrict=true" =
        some [("log", .table [("level", .string "info")]),
          ("engine", .table [("strict", .bool true)])] ∧
      parse? {} "log.level = 'info' # loud\n[engine]\nstrict=true" =
        some ⟨.default {}, ⟨"info"⟩, ⟨true, none⟩⟩) ∧
    parse? {} (Excerpt.print ⟨none, some none, some (none, some 3)⟩) =
      some ⟨.default {}, ⟨"warn"⟩, ⟨false, some 3⟩⟩ := by
  obtain ⟨-, printed, documents, excerpts⟩ := settings_read_back
  have written : print ⟨⟨"a\"\nb"⟩, ⟨"it's"⟩, ⟨true, some (2 ^ 63 - 1)⟩⟩ = .ok
      ("[store]\ndata_dir = \"\"\"\na\"\nb\"\"\"\n\n[log]\nlevel = \"it's\"\n\n" ++
        "[engine]\nstrict = true\nhistory_capacity = 9223372036854775807\n") := by
    cbv
  have parsed : Toml.parse? "log.level = 'info' # loud\n[engine]\nstrict=true" =
      some [("log", .table [("level", .string "info")]),
        ("engine", .table [("strict", .bool true)])] := by
    rw [Toml.parse?, if_neg (by decide)]
    cbv
  have tabular : IsTabular [("log", .table [("level", .string "info")]),
      ("engine", .table [("strict", .bool true)])] := by
    intro name known value found
    simp only [List.mem_cons, List.not_mem_nil, or_false] at known
    rcases known with rfl | rfl | rfl <;> cases found <;> exact ⟨_, rfl⟩
  have small : Excerpt.Fits ⟨none, some none, some (none, some 3)⟩ := by
    intro capacity given
    cases given
    decide
  exact ⟨⟨written, printed _ _ written {}⟩,
    ⟨parsed, (documents _ _ parsed tabular {} _).2 ⟨.omitted, .given rfl, .given rfl, .omitted⟩⟩,
    excerpts _ small {}⟩

end Settings

end CommandSynthesis
