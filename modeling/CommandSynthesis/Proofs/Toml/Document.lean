import CommandSynthesis.Proofs.Toml.Quoted
import CommandSynthesis.Proofs.Toml.Scalar
import CommandSynthesis.Toml.Reader
import Mathlib.Data.List.TakeDrop

set_option autoImplicit false

/-!
# Documents are read back

A document of tables, each under its header and with one line for each of its keys, is read as the
members that it was written for.
-/

namespace CommandSynthesis.Toml

/-! ## What is written -/

/-- What may be written for a value. -/
inductive Writes : String → Value → Prop
  | string (text : String) : Writes (printString text) (.string text)
  | bool (value : Bool) : Writes (printBool value) (.bool value)
  | natural {value : Nat} {written : String} : printNat? value = some written →
      Writes written (.integer value)

/-- A name that stands in a key without quotes. -/
structure IsBareName (name : String) : Prop where
  filled : name.toList ≠ []
  all : ∀ c ∈ name.toList, isNameChar c = true

instance (name : String) : Decidable (IsBareName name) :=
  decidable_of_iff (name.toList ≠ [] ∧ name.toList.all isNameChar = true)
    ⟨fun ⟨filled, all⟩ => ⟨filled, List.all_eq_true.1 all⟩,
      fun ⟨filled, all⟩ => ⟨filled, List.all_eq_true.2 all⟩⟩

/-- A key, what is written for its value, and the value. -/
structure Entry where
  key : String
  written : String
  value : Value

structure Sheet where
  name : String
  entries : List Entry

structure Entry.IsSound (entry : Entry) : Prop where
  bare : IsBareName entry.key
  writes : Writes entry.written entry.value

structure Sheet.IsSound (sheet : Sheet) : Prop where
  bare : IsBareName sheet.name
  entries : ∀ entry ∈ sheet.entries, entry.IsSound
  distinct : (sheet.entries.map Entry.key).Nodup

def Entry.print (entry : Entry) : String :=
  printPair entry.key entry.written

def Entry.statement (entry : Entry) : Statement :=
  .assign [entry.key] entry.value

def Sheet.print (sheet : Sheet) : String :=
  printTable sheet.name (sheet.entries.map Entry.print)

def Sheet.statements (sheet : Sheet) : List Statement :=
  .openTable [sheet.name] :: sheet.entries.map Entry.statement

/-- The table as a member of the document. -/
def Sheet.member (sheet : Sheet) : String × Value :=
  (sheet.name, .table (sheet.entries.map fun entry => (entry.key, entry.value)))

/-- The tables with an empty line between them. -/
def printSheets (sheets : List Sheet) : String :=
  "\n".intercalate (sheets.map Sheet.print)

/-! ## Names -/

theorem isBlank_of_isNameChar {c : Char} (isChar : isNameChar c = true) : isBlank c = false := by
  refine Bool.eq_false_iff.2 fun blank => ?_
  simp only [isBlank, Bool.or_eq_true, beq_iff_eq] at blank
  rcases blank with rfl | rfl <;> exact absurd isChar (by decide)

section Names

variable {name : String} (bare : IsBareName name)

include bare

theorem IsBareName.exists_cons : ∃ c more, name.toList = c :: more ∧ isNameChar c = true := by
  obtain ⟨c, more, split⟩ := List.exists_cons_of_ne_nil bare.filled
  exact ⟨c, more, split, bare.all c (split ▸ List.mem_cons_self)⟩

theorem IsBareName.front_ne {c : Char} (other : isNameChar c = false) (text rest : List Char) :
    name.toList ++ text ≠ c :: rest := by
  intro same
  obtain ⟨first, more, split, isChar⟩ := bare.exists_cons
  rw [split] at same
  rw [(List.cons.inj same).1, other] at isChar
  cases isChar

theorem skipBlanks_bare (rest : List Char) :
    skipBlanks (name.toList ++ rest) = name.toList ++ rest := by
  obtain ⟨c, more, split, isChar⟩ := bare.exists_cons
  rw [split, List.cons_append]
  exact List.dropWhile_cons_of_neg (Bool.eq_false_iff.1 (isBlank_of_isNameChar isChar))

theorem readName_bare {c : Char} (stop : isNameChar c = false) (rest : List Char) :
    readName (name.toList ++ c :: rest) = some (name, c :: rest) := by
  have taken : (name.toList ++ c :: rest).span isNameChar = (name.toList, c :: rest) := by
    rw [List.span_eq_takeWhile_dropWhile, List.takeWhile_append_of_pos bare.all,
      List.dropWhile_append_of_pos bare.all, List.takeWhile_cons, List.dropWhile_cons]
    simp [stop]
  obtain ⟨first, more, split, isChar⟩ := bare.exists_cons
  have double : first ≠ '"' := by
    intro same
    subst same
    exact absurd isChar (by decide)
  have single : first ≠ '\'' := by
    intro same
    subst same
    exact absurd isChar (by decide)
  rw [split, List.cons_append] at taken ⊢
  rw [readName, if_neg double, if_neg single, taken]
  simp only [← split, String.ofList_toList]

theorem readPath_bare {c d : Char} (stop : isNameChar c = false) {rest after : List Char}
    (behind : skipBlanks (c :: rest) = d :: after) (noDot : d ≠ '.') (count : Nat) :
    readPath (count + 1) (name.toList ++ c :: rest) = some ([name], d :: after) := by
  have noDot : ∀ more, d :: after ≠ '.' :: more := fun _ same => noDot (List.cons.inj same).1
  rw [readPath, skipBlanks_bare bare, readName_bare bare stop]
  simp only [Option.bind_eq_bind, Option.bind_some, behind]
  rfl

end Names

/-! ## Values -/

theorem exists_digits (n : Nat) : ∃ c more, Decimal.digits n = c :: more ∧ c.isDigit = true := by
  obtain ⟨c, more, split⟩ := List.exists_cons_of_ne_nil (Decimal.digits_ne_nil n)
  exact ⟨c, more, split, Decimal.isDigit_of_mem_digits (split ▸ List.mem_cons_self)⟩

theorem toList_of_printNat? {n : Nat} {written : String} (printed : printNat? n = some written) :
    n < 0x8000000000000000 ∧ written.toList = Decimal.digits n := by
  rw [printNat?] at printed
  split at printed
  · next fits =>
    cases printed
    exact ⟨fits, String.toList_ofList⟩
  · cases printed

theorem Writes.exists_cons {written : String} {value : Value} (writes : Writes written value) :
    ∃ c more, written.toList = c :: more ∧ isBlank c = false := by
  cases writes with
  | string text =>
    obtain ⟨quote, more, split, rfl | rfl⟩ := exists_printString text
    · exact ⟨_, more, split, rfl⟩
    · exact ⟨_, more, split, rfl⟩
  | bool value =>
    cases value with
    | false => exact ⟨'f', _, rfl, rfl⟩
    | true => exact ⟨'t', _, rfl, rfl⟩
  | natural printed =>
    obtain ⟨c, more, split, digit⟩ := exists_digits _
    have digits := (toList_of_printNat? printed).2
    refine ⟨c, more, digits.trans split, Bool.eq_false_iff.2 fun blank => ?_⟩
    simp only [isBlank, Bool.or_eq_true, beq_iff_eq] at blank
    rcases blank with rfl | rfl <;> cases digit

theorem readValue_string (text : String) (depth fuel : Nat) (rest : List Char) :
    readValue depth (fuel + 1) ((printString text).toList ++ '\n' :: rest) =
      some (.string text, '\n' :: rest) := by
  obtain ⟨quote, more, split, isQuote⟩ := exists_printString text
  have read := readQuoted_printString text rest
  rw [split, List.cons_append] at read ⊢
  rw [readValue.eq_def]
  dsimp only
  rw [if_pos isQuote, read, Option.map_some]

theorem readValue_bool (value : Bool) (depth fuel : Nat) (rest : List Char) :
    readValue depth (fuel + 1) ((printBool value).toList ++ '\n' :: rest) =
      some (.bool value, '\n' :: rest) := by
  cases value with
  | false =>
    change readValue depth (fuel + 1) ('f' :: 'a' :: 'l' :: 's' :: 'e' :: '\n' :: rest) = _
    rw [readValue.eq_def]
    rfl
  | true =>
    change readValue depth (fuel + 1) ('t' :: 'r' :: 'u' :: 'e' :: '\n' :: rest) = _
    rw [readValue.eq_def]
    rfl

theorem readValue_digits {n : Nat} (fits : n < 0x8000000000000000) (depth fuel : Nat)
    (rest : List Char) :
    readValue depth (fuel + 1) (Decimal.digits n ++ '\n' :: rest) =
      some (.integer n, '\n' :: rest) := by
  have read := readScalar_digits rest fits
  obtain ⟨c, more, split, digit⟩ := exists_digits n
  have other {d : Char} (noDigit : d.isDigit = false) : c ≠ d := by
    intro same
    subst same
    rw [noDigit] at digit
    cases digit
  rw [split, List.cons_append] at read ⊢
  rw [readValue.eq_def]
  dsimp only
  rw [if_neg (not_or.2 ⟨other rfl, other rfl⟩), if_neg (other rfl), if_neg (other rfl),
    if_neg (other rfl), if_neg (other rfl), read]

theorem Writes.readValue {written : String} {value : Value} (writes : Writes written value)
    (depth fuel : Nat) (rest : List Char) :
    readValue depth (fuel + 1) (written.toList ++ '\n' :: rest) = some (value, '\n' :: rest) := by
  cases writes with
  | string text => exact readValue_string text depth fuel rest
  | bool value => exact readValue_bool value depth fuel rest
  | natural printed =>
    obtain ⟨fits, digits⟩ := toList_of_printNat? printed
    rw [digits]
    exact readValue_digits fits depth fuel rest

/-! ## Lines -/

/-- A text is read as statements with any number of steps beyond its length. -/
def ReadsAs (text : List Char) (statements : List Statement) : Prop :=
  ∀ fuel, text.length < fuel → readStatements fuel text = some statements

theorem readsAs_nil : ReadsAs [] [] := by
  intro fuel enough
  obtain ⟨steps, rfl⟩ : ∃ steps, fuel = steps + 1 := ⟨fuel - 1, by simp at enough; omega⟩
  rfl

theorem ReadsAs.blank {rest : List Char} {statements : List Statement}
    (reads : ReadsAs rest statements) : ReadsAs ('\n' :: rest) statements := by
  intro fuel enough
  rw [List.length_cons] at enough
  obtain ⟨steps, rfl⟩ : ∃ steps, fuel = steps + 2 := ⟨fuel - 2, by omega⟩
  have others := reads (steps + 1) (by omega)
  have ended : lineEnd? ('\n' :: rest) = some rest := rfl
  rw [readStatements, ended]
  cases rest with
  | nil => exact others
  | cons c rest => exact others

/-- A line begins with a character that is no blank, begins no comment and ends no line. -/
def BeginsLine (c : Char) : Prop :=
  isBlank c = false ∧ c ≠ '#' ∧ c ≠ '\n' ∧ c ≠ '\r'

theorem BeginsLine.skipBlanks {c : Char} (begins : BeginsLine c) (rest : List Char) :
    skipBlanks (c :: rest) = c :: rest :=
  List.dropWhile_cons_of_neg (Bool.eq_false_iff.1 begins.1)

theorem BeginsLine.lineEnd? {c : Char} (begins : BeginsLine c) (rest : List Char) :
    lineEnd? (c :: rest) = none := by
  have noComment : skipComment (c :: rest) = c :: rest := by
    unfold skipComment
    split
    · next same => exact absurd (List.cons.inj same).1 begins.2.1
    · rfl
  rw [Toml.lineEnd?, begins.skipBlanks, noComment]
  exact break?_cons begins.2.2.1 begins.2.2.2 rest

theorem ReadsAs.line {line rest : List Char} {c : Char} {statement : Statement}
    {statements : List Statement} (reads : ReadsAs rest statements) (begins : BeginsLine c)
    (read : ∀ fuel, readStatement (fuel + 1) (c :: line ++ '\n' :: rest) =
      some (statement, '\n' :: rest)) :
    ReadsAs (c :: line ++ '\n' :: rest) (statement :: statements) := by
  intro fuel enough
  rw [List.length_append, List.length_cons, List.length_cons] at enough
  obtain ⟨steps, rfl⟩ : ∃ steps, fuel = steps + 2 := ⟨fuel - 2, by omega⟩
  have others := reads (steps + 1) (by omega)
  have ended : Toml.lineEnd? ('\n' :: rest) = some rest := rfl
  have one := read steps
  rw [List.cons_append] at one ⊢
  rw [readStatements, begins.lineEnd?, begins.skipBlanks, one]
  simp only [Option.bind_eq_bind, Option.bind_some, ended, others]
  rfl

theorem IsBareName.beginsLine {name : String} (bare : IsBareName name) :
    ∃ c more, name.toList = c :: more ∧ BeginsLine c := by
  obtain ⟨c, more, split, isChar⟩ := bare.exists_cons
  refine ⟨c, more, split, isBlank_of_isNameChar isChar, ?_, ?_, ?_⟩
  all_goals
    intro same
    subst same
    exact absurd isChar (by decide)

theorem readStatement_header {name : String} (bare : IsBareName name) (fuel : Nat)
    (rest : List Char) : readStatement fuel ('[' :: (name.toList ++ ']' :: '\n' :: rest)) =
      some (.openTable [name], '\n' :: rest) := by
  have path : readPath maxDepth (name.toList ++ ']' :: '\n' :: rest) =
      some ([name], ']' :: '\n' :: rest) :=
    readPath_bare bare (by decide) rfl (by decide) 78
  rw [readStatement, path]
  · rfl
  · exact fun more same => bare.front_ne (by decide) _ more same

theorem readStatement_entry {entry : Entry} (sound : entry.IsSound) (fuel : Nat)
    (rest : List Char) :
    readStatement (fuel + 1)
        (entry.key.toList ++ ' ' :: '=' :: ' ' :: (entry.written.toList ++ '\n' :: rest)) =
      some (entry.statement, '\n' :: rest) := by
  have path : readPath maxDepth
      (entry.key.toList ++ ' ' :: '=' :: ' ' :: (entry.written.toList ++ '\n' :: rest)) =
      some ([entry.key], '=' :: ' ' :: (entry.written.toList ++ '\n' :: rest)) :=
    readPath_bare sound.bare (by decide) rfl (by decide) 78
  have value := sound.writes.readValue maxDepth fuel rest
  have front : skipBlanks (' ' :: (entry.written.toList ++ '\n' :: rest)) =
      entry.written.toList ++ '\n' :: rest := by
    obtain ⟨c, more, split, unblank⟩ := sound.writes.exists_cons
    rw [split, List.cons_append]
    exact List.dropWhile_cons_of_neg (Bool.eq_false_iff.1 unblank)
  rw [readStatement, path]
  · simp only [Option.bind_eq_bind, Option.bind_some, readWord, if_true, front, value]
    rfl
  · exact fun more same => sound.bare.front_ne (by decide) _ _ same
  · exact fun more same => sound.bare.front_ne (by decide) _ _ same

/-! ## Tables -/

theorem toList_printPair (key value : String) (rest : List Char) :
    (printPair key value).toList ++ rest =
      key.toList ++ ' ' :: '=' :: ' ' :: (value.toList ++ '\n' :: rest) := by
  simp [printPair]

theorem toList_printTable (name : String) (lines : List String) (rest : List Char) :
    (printTable name lines).toList ++ rest =
      '[' :: (name.toList ++ ']' :: '\n' :: ((String.join lines).toList ++ rest)) := by
  simp [printTable]

theorem ReadsAs.entry {entry : Entry} (sound : entry.IsSound) {rest : List Char}
    {statements : List Statement} (reads : ReadsAs rest statements) :
    ReadsAs (entry.print.toList ++ rest) (entry.statement :: statements) := by
  obtain ⟨c, more, split, begins⟩ := sound.bare.beginsLine
  have line := fun fuel => readStatement_entry sound fuel rest
  rw [Entry.print, toList_printPair]
  rw [split, List.cons_append] at line ⊢
  have whole : c :: (more ++ ' ' :: '=' :: ' ' :: (entry.written.toList ++ '\n' :: rest)) =
      c :: (more ++ ' ' :: '=' :: ' ' :: entry.written.toList) ++ '\n' :: rest := by simp
  rw [whole] at line ⊢
  exact reads.line begins line

theorem ReadsAs.entries {entries : List Entry} (sound : ∀ entry ∈ entries, entry.IsSound)
    {rest : List Char} {statements : List Statement} (reads : ReadsAs rest statements) :
    ReadsAs ((String.join (entries.map Entry.print)).toList ++ rest)
      (entries.map Entry.statement ++ statements) := by
  induction entries with
  | nil => exact reads
  | cons entry entries ih =>
    have others := ih fun other member => sound other (List.mem_cons_of_mem entry member)
    rw [List.map_cons, String.join_cons, String.toList_append, List.append_assoc]
    exact others.entry (sound entry List.mem_cons_self)

theorem ReadsAs.sheet {sheet : Sheet} (sound : sheet.IsSound) {rest : List Char}
    {statements : List Statement} (reads : ReadsAs rest statements) :
    ReadsAs (sheet.print.toList ++ rest) (sheet.statements ++ statements) := by
  have entries := reads.entries sound.entries
  have whole (more : List Char) : '[' :: (sheet.name.toList ++ ']' :: '\n' :: more) =
      '[' :: (sheet.name.toList ++ [']']) ++ '\n' :: more := by simp
  have line := fun fuel => readStatement_header sound.bare (fuel + 1)
    ((String.join (sheet.entries.map Entry.print)).toList ++ rest)
  rw [Sheet.print, toList_printTable]
  rw [whole] at line ⊢
  exact entries.line ⟨rfl, by decide, by decide, by decide⟩ line

theorem readsAs_printSheets {sheets : List Sheet} (sound : ∀ sheet ∈ sheets, sheet.IsSound) :
    ReadsAs (printSheets sheets).toList (sheets.flatMap Sheet.statements) := by
  induction sheets with
  | nil =>
    rw [printSheets, List.map_nil, String.intercalate_nil]
    exact readsAs_nil
  | cons sheet sheets ih =>
    have first := sound sheet List.mem_cons_self
    have others := ih fun other member => sound other (List.mem_cons_of_mem sheet member)
    rw [printSheets, List.map_cons, List.flatMap_cons]
    cases sheets with
    | nil =>
      have alone := readsAs_nil.sheet first
      rw [List.append_nil] at alone
      rwa [List.map_nil, String.intercalate_singleton, List.flatMap_nil]
    | cons next sheets =>
      rw [List.map_cons, String.intercalate_cons_cons, String.toList_append, String.toList_append,
        List.append_assoc]
      exact others.blank.sheet first

/-! ## Members -/

def Entry.node (entry : Entry) : String × Node :=
  (entry.key, .value entry.value)

def Sheet.node (sheet : Sheet) : String × Node :=
  (sheet.name, .table .header (sheet.entries.map Entry.node))

theorem lookup_eq_none_of_notMem {α : Type} {members : List (String × α)} {name : String}
    (fresh : name ∉ members.map Prod.fst) : members.lookup name = none := by
  rw [List.lookup_eq_none_iff]
  intro member inside
  rw [bne_iff_ne]
  intro same
  subst same
  exact fresh (List.mem_map_of_mem inside)

section Scopes

variable {root : Scope} {name : String} (fresh : root.lookup name = none)

include fresh

theorem lookup_last (node : Node) : (root ++ [(name, node)]).lookup name = some node := by
  rw [List.lookup_append, fresh, Option.none_or, List.lookup_cons_self]

theorem replace_last (old new : Node) :
    Scope.replace name new (root ++ [(name, old)]) = root ++ [(name, new)] := by
  induction root with
  | nil => simp [Scope.replace]
  | cons member root ih =>
    obtain ⟨other, node⟩ := member
    rw [List.lookup_cons] at fresh
    split at fresh
    · cases fresh
    · next unequal =>
      have differs : other ≠ name := by
        intro same
        subst same
        simp at unequal
      rw [List.cons_append, Scope.replace, if_neg differs, ih fresh, List.cons_append]

theorem add_openTable (current : List String) :
    Draft.add ⟨root, current⟩ (.openTable [name]) =
      some ⟨root ++ [(name, .table .header [])], [name]⟩ := by
  simp [Draft.add, Draft.change, Scope.within, Scope.addTable, fresh]

/-- A key is added to the table that came last. -/
theorem add_assign {inside : Scope} {key : String} (new : inside.lookup key = none)
    (value : Value) :
    Draft.add ⟨root ++ [(name, .table .header inside)], [name]⟩ (.assign [key] value) =
      some ⟨root ++ [(name, .table .header (inside ++ [(key, .value value)]))], [name]⟩ := by
  simp [Draft.add, Scope.within, lookup_last fresh, replace_last fresh, Scope.assign,
    Scope.addValue, new]

theorem foldlM_entries {inside : Scope} {entries : List Entry}
    (distinct : (inside.map Prod.fst ++ entries.map Entry.key).Nodup) :
    (entries.map Entry.statement).foldlM Draft.add
        ⟨root ++ [(name, .table .header inside)], [name]⟩ =
      some ⟨root ++ [(name, .table .header (inside ++ entries.map Entry.node))], [name]⟩ := by
  induction entries generalizing inside with
  | nil => simp
  | cons entry entries ih =>
    have new : inside.lookup entry.key = none := by
      refine lookup_eq_none_of_notMem fun member => ?_
      exact (List.nodup_append.1 distinct).2.2 _ member _ List.mem_cons_self rfl
    have left : ((inside ++ [entry.node]).map Prod.fst ++ entries.map Entry.key).Nodup := by
      simpa [Entry.node] using distinct
    have others := ih left
    rw [List.map_cons, List.foldlM_cons, Entry.statement, add_assign fresh new]
    simpa [Entry.node] using others

end Scopes

theorem foldlM_sheet {root : Scope} {sheet : Sheet}
    (fresh : root.lookup sheet.name = none) (sound : sheet.IsSound) (current : List String) :
    sheet.statements.foldlM Draft.add ⟨root, current⟩ =
      some ⟨root ++ [sheet.node], [sheet.name]⟩ := by
  have distinct : (([] : Scope).map Prod.fst ++ sheet.entries.map Entry.key).Nodup :=
    sound.distinct
  rw [Sheet.statements, List.foldlM_cons, add_openTable fresh]
  exact foldlM_entries fresh distinct

theorem foldlM_sheets {root : Scope} {sheets : List Sheet}
    (distinct : (root.map Prod.fst ++ sheets.map Sheet.name).Nodup)
    (sound : ∀ sheet ∈ sheets, sheet.IsSound) (current : List String) :
    ∃ last, (sheets.flatMap Sheet.statements).foldlM Draft.add ⟨root, current⟩ =
      some ⟨root ++ sheets.map Sheet.node, last⟩ := by
  induction sheets generalizing root current with
  | nil => exact ⟨current, by simp⟩
  | cons sheet sheets ih =>
    have fresh : root.lookup sheet.name = none := by
      refine lookup_eq_none_of_notMem fun member => ?_
      exact (List.nodup_append.1 distinct).2.2 _ member _ List.mem_cons_self rfl
    have left : ((root ++ [sheet.node]).map Prod.fst ++ sheets.map Sheet.name).Nodup := by
      simpa [Sheet.node] using distinct
    have others := fun other member => sound other (List.mem_cons_of_mem sheet member)
    obtain ⟨last, added⟩ := ih left others [sheet.name]
    refine ⟨last, ?_⟩
    rw [List.flatMap_cons, List.foldlM_append, foldlM_sheet fresh (sound sheet List.mem_cons_self)]
    simpa using added

theorem toMembers_eq_map (members : List (String × Node)) :
    Node.toMembers members = members.map fun member => (member.1, member.2.toValue) := by
  induction members with
  | nil => rfl
  | cons member members ih => rw [Node.toMembers, ih]; rfl

theorem toMembers_nodes (sheets : List Sheet) :
    Node.toMembers (sheets.map Sheet.node) = sheets.map Sheet.member := by
  rw [toMembers_eq_map, List.map_map]
  refine List.map_congr_left fun sheet _ => ?_
  simp [Sheet.node, Sheet.member, Node.toValue, toMembers_eq_map, Entry.node]

theorem Sheet.head?_print (sheet : Sheet) (rest : List Char) :
    (sheet.print.toList ++ rest).head? = some '[' := by
  rw [Sheet.print, toList_printTable, List.head?_cons]

/-- No mark of the byte order stands before the tables. -/
theorem head?_printSheets (sheets : List Sheet) :
    (printSheets sheets).toList.head? ≠ some '\uFEFF' := by
  have other : some '[' ≠ some '\uFEFF' := by decide
  match sheets with
  | [] => exact nofun
  | [sheet] =>
    have bracket := sheet.head?_print []
    rw [List.append_nil] at bracket
    rwa [printSheets, List.map_singleton, String.intercalate_singleton, bracket]
  | sheet :: next :: sheets =>
    rwa [printSheets, List.map_cons, List.map_cons, String.intercalate_cons_cons,
      String.toList_append, String.toList_append, List.append_assoc, sheet.head?_print]

theorem parse?_printSheets {sheets : List Sheet} (sound : ∀ sheet ∈ sheets, sheet.IsSound)
    (distinct : (sheets.map Sheet.name).Nodup) :
    parse? (printSheets sheets) = some (sheets.map Sheet.member) := by
  have read := readsAs_printSheets sound (2 * (printSheets sheets).toList.length + 2) (by omega)
  obtain ⟨last, added⟩ := @foldlM_sheets [] sheets distinct sound []
  rw [parse?, if_neg (head?_printSheets sheets), read]
  simp [Members.ofStatements?, added, toMembers_nodes]

end CommandSynthesis.Toml
