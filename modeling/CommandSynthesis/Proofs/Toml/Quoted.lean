import CommandSynthesis.Toml.Printer
import CommandSynthesis.Toml.Quoted
import Mathlib.Tactic.SplitIfs

set_option autoImplicit false

/-!
# Quoted texts are read back

Whatever form a text is written in, the reader of quoted texts gets the text from it and stops
behind the closing quotes.
-/

namespace CommandSynthesis.Toml

/-! ## What is written for a character -/

theorem lt_of_not_isPlain {c : Char} (unplain : ¬ isPlain c = true) : c.toNat < 128 := by
  refine Nat.lt_of_not_le fun large => ?_
  have beyond : ' ' ≤ c := by
    rw [Char.le_def, UInt32.le_iff_toNat_le]
    exact Nat.le_trans (by decide) large
  have other : c ≠ '\x7f' := by
    intro same
    subst same
    exact absurd large (by decide)
  exact unplain (by simp [isPlain, beyond, other])

theorem ne_of_isPlain {c : Char} (plain : isPlain c = true) : c ≠ '\n' ∧ c ≠ '\r' := by
  constructor
  all_goals
    intro same
    subst same
    exact absurd plain (by decide)

/-- A character stands for itself, or a backslash and an escape stand for it. -/
inductive Shown (c : Char) : List Char → Prop
  | self : isPlain c = true → c ≠ '\\' → c ≠ '"' → Shown c [c]
  | escape {mark : List Char} : (∀ more, escape? (mark ++ more) = some (c, mark.length)) →
      Shown c ('\\' :: mark)

theorem fourDigits_small {code : Nat} (small : code < 128) : (fourDigits code).length = 4 ∧
    ∀ more, coded? 4 (fourDigits code ++ more) = some (Char.ofNat code) := by
  have all : ∀ code < 128, (fourDigits code).length = 4 ∧
      coded? 4 (fourDigits code) = some (Char.ofNat code) := by decide +kernel
  obtain ⟨four, read⟩ := all code small
  refine ⟨four, fun more => ?_⟩
  rw [← read, coded?, coded?, ← four, List.take_left, List.take_length]

theorem shown_quote : Shown '"' ['\\', '"'] := .escape fun _ => rfl

theorem shown_escapeOf? {c : Char} (quote : c ≠ '"') : Shown c ((escapeOf? c).getD [c]) := by
  unfold escapeOf?
  split_ifs with backspace tab feed form carriage slash plain
  -- Each of the short escapes is read back on its own.
  iterate 6
    subst c
    exact .escape fun _ => rfl
  · exact .self plain slash quote
  · obtain ⟨four, read⟩ := fourDigits_small (lt_of_not_isPlain plain)
    rw [Char.ofNat_toNat] at read
    exact .escape fun more => by simp [escape?, read, four]

theorem break?_cons {c : Char} (feed : c ≠ '\n') (carriage : c ≠ '\r') (rest : List Char) :
    break? (c :: rest) = none := by
  unfold break?
  split
  · next same => exact absurd (List.cons.inj same).1 feed
  · next same => exact absurd (List.cons.inj same).1 carriage
  · rfl

/-- What is escaped is no blank and no break. -/
theorem break?_of_escape? {text : List Char} {found : Char × Nat}
    (read : escape? text = some found) : break? (skipBlanks text) = none := by
  cases text with
  | nil => cases read
  | cons c rest =>
    have unblank : ¬ isBlank c = true := by
      intro blank
      simp only [isBlank, Bool.or_eq_true, beq_iff_eq] at blank
      rcases blank with rfl | rfl <;> cases read
    rw [skipBlanks, List.dropWhile_cons, if_neg unblank]
    refine break?_cons ?_ ?_ rest
    all_goals
      intro same
      subst same
      cases read

/-! ## Between double quotes -/

theorem readBasic_shown {c : Char} {shown : List Char} (shows : Shown c shown)
    (done more : List Char) : readBasic done (shown ++ more) = readBasic (c :: done) more := by
  cases shows with
  | self plain slash quote =>
    rw [List.singleton_append, readBasic, if_neg quote, if_neg slash, if_pos plain]
  | escape read =>
    rw [List.cons_append, readBasic, if_neg (by decide), if_pos rfl, read]
    simp only [List.drop_left]

theorem exists_escapeText_cons (c : Char) (text : List Char) :
    ∃ shown, Shown c shown ∧ escapeText false 0 (c :: text) = shown ++ escapeText false 0 text := by
  by_cases quote : c = '"'
  · subst quote
    exact ⟨_, shown_quote, rfl⟩
  · refine ⟨_, shown_escapeOf? quote, ?_⟩
    rw [escapeText, if_neg quote, if_neg (by simp)]

theorem readBasic_escapeText (done text after : List Char) :
    readBasic done (escapeText false 0 text ++ '"' :: after) =
      some (String.ofList (done.reverse ++ text), after) := by
  induction text generalizing done with
  | nil => rw [escapeText, List.nil_append, readBasic, if_pos rfl, List.append_nil]
  | cons c text ih =>
    obtain ⟨shown, shows, written⟩ := exists_escapeText_cons c text
    rw [written, List.append_assoc, readBasic_shown shows, ih, List.reverse_cons,
      List.append_assoc, List.singleton_append]

/-! ## Between single quotes -/

theorem readLiteral_plain {text : List Char} (plain : ∀ c ∈ text, isPlain c = true ∧ c ≠ '\'')
    (done after : List Char) :
    readLiteral done (text ++ '\'' :: after) =
      some (String.ofList (done.reverse ++ text), after) := by
  induction text generalizing done with
  | nil => rw [List.nil_append, readLiteral, if_pos rfl, List.append_nil]
  | cons c text ih =>
    obtain ⟨isPlain, quote⟩ := plain c List.mem_cons_self
    rw [List.cons_append, readLiteral, if_neg quote, if_pos isPlain,
      ih fun d member => plain d (List.mem_cons_of_mem c member), List.reverse_cons,
      List.append_assoc, List.singleton_append]

/-! ## Between threefold quotes -/

/-- A reader of what stands between threefold quotes: it ends the text at the first three of them in
a row, and a quote before fewer than two others is part of the text. -/
structure IsBlockReader (quote : Char)
    (read : List Char → List Char → Option (String × List Char)) : Prop where
  close : ∀ done rest,
    read done (quote :: quote :: quote :: rest) = some (closeBlock quote done rest)
  quote : ∀ done rest, (∀ after, rest ≠ quote :: quote :: after) →
    read done (quote :: rest) = read (quote :: done) rest

/-- What may be written for a text between threefold quotes, when `run` quotes stand before it. -/
inductive BlockBody (quote : Char) (read : List Char → List Char → Option (String × List Char)) :
    Nat → List Char → List Char → Prop
  | nil {run : Nat} : run ≤ 2 → BlockBody quote read run [] []
  | quote {run : Nat} {body text : List Char} : BlockBody quote read (run + 1) body text →
      BlockBody quote read run (quote :: body) (quote :: text)
  | char {run : Nat} {first c : Char} {others body text : List Char} : run ≤ 2 → first ≠ quote →
      (∀ done more, read done (first :: others ++ more) = read (c :: done) more) →
      BlockBody quote read 0 body text →
      BlockBody quote read run (first :: others ++ body) (c :: text)

section Blocks

variable {quote : Char} {read : List Char → List Char → Option (String × List Char)}

theorem closeBlock_run {run : Nat} (atMost : run ≤ 2) {c : Char} (other : c ≠ quote)
    (done after : List Char) :
    closeBlock quote done (List.replicate run quote ++ c :: after) =
      (String.ofList (done.reverse ++ List.replicate run quote), c :: after) := by
  have kept : ((List.replicate run quote ++ c :: after).take 2).takeWhile (· = quote) =
      List.replicate run quote := by
    match run, atMost with
    | 0, _ | 1, _ | 2, _ => simp [List.replicate, other]
  rw [closeBlock, kept, List.length_replicate]
  simp

theorem IsBlockReader.read_run (reader : IsBlockReader quote read) {run : Nat} (atMost : run ≤ 2)
    {c : Char} (other : c ≠ quote) (done rest : List Char) :
    read done (List.replicate run quote ++ c :: rest) =
      read (List.replicate run quote ++ done) (c :: rest) := by
  have one (done : List Char) : read done (quote :: c :: rest) = read (quote :: done) (c :: rest) :=
    reader.quote done _ fun _ same => other (List.cons.inj same).1
  match run, atMost with
  | 0, _ => rfl
  | 1, _ => exact one done
  | 2, _ =>
    have two := reader.quote done (quote :: c :: rest) fun _ same =>
      other (List.cons.inj (List.cons.inj same).2).1
    exact two.trans (one (quote :: done))

theorem BlockBody.read_eq (reader : IsBlockReader quote read) {c : Char} (other : c ≠ quote)
    {run : Nat} {body text : List Char} (written : BlockBody quote read run body text)
    (done after : List Char) :
    read done (List.replicate run quote ++ (body ++ quote :: quote :: quote :: c :: after)) =
      some (String.ofList (done.reverse ++ (List.replicate run quote ++ text)), c :: after) := by
  -- The quotes that `run` counts are still to be read: with the closing ones they come to as many
  -- as belong to the text, and before any other character they are read one by one.
  induction written generalizing done with
  | @nil run atMost =>
    have swapped : List.replicate run quote ++ quote :: quote :: quote :: c :: after =
        quote :: quote :: quote :: (List.replicate run quote ++ c :: after) := by
      change List.replicate run quote ++ (List.replicate 3 quote ++ c :: after) =
        List.replicate 3 quote ++ (List.replicate run quote ++ c :: after)
      rw [← List.append_assoc, ← List.append_assoc, List.replicate_append_replicate,
        List.replicate_append_replicate, Nat.add_comm]
    rw [List.nil_append, swapped, reader.close, closeBlock_run atMost other, List.append_nil]
  | @quote run body text _ ih =>
    have grown (rest : List Char) : List.replicate run quote ++ quote :: rest =
        List.replicate (run + 1) quote ++ rest := by
      rw [List.replicate_succ', List.append_assoc, List.singleton_append]
    rw [List.cons_append, grown, grown, ih]
  | @char run first c others body text atMost apart shows _ ih =>
    have next := ih (c :: (List.replicate run quote ++ done))
    rw [List.replicate_zero, List.nil_append, List.nil_append] at next
    rw [List.append_assoc, List.cons_append, reader.read_run atMost apart, ← List.cons_append,
      shows, next]
    simp

end Blocks

/-! ### Double ones -/

theorem readBasicBlock_plain {c : Char} {rest : List Char} (plain : isPlain c = true)
    (slash : c ≠ '\\') (apart : c = '"' → ∀ after, rest ≠ '"' :: '"' :: after)
    (done : List Char) :
    readBasicBlock false done (c :: rest) = readBasicBlock false (c :: done) rest := by
  obtain ⟨feed, carriage⟩ := ne_of_isPlain plain
  rw [readBasicBlock]
  · rw [Bool.false_and, if_neg Bool.false_ne_true, if_neg slash, if_pos plain]
  · exact fun _ same follows => apart same _ follows
  · exact fun _ same _ => carriage same
  · exact feed

theorem readBasicBlock_escape {c : Char} {mark : List Char}
    (read : ∀ more, escape? (mark ++ more) = some (c, mark.length)) (done more : List Char) :
    readBasicBlock false done ('\\' :: (mark ++ more)) = readBasicBlock false (c :: done) more := by
  have joined : ¬ (break? (skipBlanks (mark ++ more))).isSome = true := by
    rw [break?_of_escape? (read more)]
    exact Bool.false_ne_true
  rw [readBasicBlock]
  · rw [Bool.false_and, if_neg Bool.false_ne_true, if_pos rfl, if_neg joined, read]
    simp only [List.drop_left]
  · exact fun _ same => absurd same (by decide)
  · exact fun _ same => absurd same (by decide)
  · exact fun same => absurd same (by decide)

theorem readBasicBlock_feed (done rest : List Char) :
    readBasicBlock false done (['\n'] ++ rest) = readBasicBlock false ('\n' :: done) rest := by
  rw [List.singleton_append, readBasicBlock, if_neg Bool.false_ne_true]

theorem isBlockReader_basic : IsBlockReader '"' (readBasicBlock false) where
  close done rest := by rw [readBasicBlock]
  quote done rest apart := readBasicBlock_plain (by decide) (by decide) (fun _ => apart) done

theorem Shown.blockBody {c : Char} {shown body text : List Char} (shows : Shown c shown) {run : Nat}
    (atMost : run ≤ 2) (others : BlockBody '"' (readBasicBlock false) 0 body text) :
    BlockBody '"' (readBasicBlock false) run (shown ++ body) (c :: text) := by
  cases shows with
  | self plain slash quote =>
    have shows (done more : List Char) :=
      @readBasicBlock_plain c more plain slash (fun same => absurd same quote) done
    exact .char atMost quote shows others
  | escape read =>
    have slash : '\\' ≠ '"' := by decide
    exact .char atMost slash (readBasicBlock_escape read) others

theorem blockBody_escapeText {run : Nat} (atMost : run ≤ 2) (text : List Char) :
    BlockBody '"' (readBasicBlock false) run (escapeText true run text) text := by
  induction text generalizing run with
  | nil => exact .nil atMost
  | cons c text ih =>
    rw [escapeText, Bool.true_and, Bool.and_true]
    by_cases quote : c = '"'
    · subst quote
      rw [if_pos rfl]
      split
      · next few => exact .quote (ih (Nat.succ_le_of_lt (of_decide_eq_true few)))
      · exact shown_quote.blockBody atMost (ih (Nat.zero_le 2))
    rw [if_neg quote]
    by_cases feed : c = '\n'
    · subst feed
      exact .char atMost quote readBasicBlock_feed (ih (Nat.zero_le 2))
    · rw [if_neg (by simpa using feed)]
      exact (shown_escapeOf? quote).blockBody atMost (ih (Nat.zero_le 2))

/-! ### Single ones -/

theorem readLiteralBlock_plain {c : Char} {rest : List Char} (plain : isPlain c = true)
    (apart : c = '\'' → ∀ after, rest ≠ '\'' :: '\'' :: after) (done : List Char) :
    readLiteralBlock done (c :: rest) = readLiteralBlock (c :: done) rest := by
  obtain ⟨feed, carriage⟩ := ne_of_isPlain plain
  rw [readLiteralBlock]
  · rw [if_pos plain]
  · exact fun _ same follows => apart same _ follows
  · exact fun _ same _ => carriage same
  · exact feed

theorem isBlockReader_literal : IsBlockReader '\'' readLiteralBlock where
  close done rest := by rw [readLiteralBlock]
  quote done rest apart := readLiteralBlock_plain (by decide) (fun _ => apart) done

theorem le_longestRun (mark : Char) (run : Nat) (text : List Char) :
    run ≤ longestRun mark run text := by
  induction text generalizing run with
  | nil => exact Nat.le_refl run
  | cons c text ih =>
    rw [longestRun]
    split
    · exact Nat.le_trans (Nat.le_succ run) (ih (run + 1))
    · exact Nat.le_max_left _ _

theorem blockBody_literal {run : Nat} {text : List Char} (few : longestRun '\'' run text ≤ 2)
    (uncoded : ∀ c ∈ text, isPlain c = true ∨ c = '\n') :
    BlockBody '\'' readLiteralBlock run text text := by
  induction text generalizing run with
  | nil => exact .nil few
  | cons c text ih =>
    have atMost := Nat.le_trans (le_longestRun '\'' run (c :: text)) few
    have uncodedTail := fun d member => uncoded d (List.mem_cons_of_mem c member)
    rw [longestRun] at few
    by_cases quote : c = '\''
    · subst quote
      rw [if_pos rfl] at few
      exact .quote (ih few uncodedTail)
    · rw [if_neg quote] at few
      have tail := ih (Nat.le_trans (Nat.le_max_right _ _) few) uncodedTail
      have shows (done more : List Char) :
          readLiteralBlock done ([c] ++ more) = readLiteralBlock (c :: done) more := by
        rcases uncoded c List.mem_cons_self with plain | rfl
        · exact readLiteralBlock_plain plain (fun same => absurd same quote) done
        · rw [List.singleton_append, readLiteralBlock]
      exact .char atMost quote shows tail

/-! ## All forms -/

theorem not_mem_of_longestRun {mark : Char} {text : List Char} {run : Nat}
    (none : longestRun mark run text = 0) : mark ∉ text := by
  induction text generalizing run with
  | nil => exact List.not_mem_nil
  | cons c text ih =>
    rw [longestRun] at none
    split at none
    · have := le_longestRun mark (run + 1) text
      omega
    · next other =>
      have tail := ih (Nat.eq_zero_of_le_zero (none ▸ Nat.le_max_right _ _))
      intro member
      cases member with
      | head => exact other rfl
      | tail _ member => exact tail member

theorem uncoded_of_needsCodes {text : List Char} (uncoded : needsCodes text = false) :
    ∀ c ∈ text, isPlain c = true ∨ c = '\n' := by
  intro c member
  have shown := List.any_eq_false.1 uncoded c member
  by_cases plain : isPlain c = true
  · exact .inl plain
  · exact .inr (by simpa [plain] using shown)

theorem of_literal {text : List Char} (style : Style.ofText text = .literal) :
    ∀ c ∈ text, isPlain c = true ∧ c ≠ '\'' := by
  simp only [Style.ofText] at style
  split_ifs at style with basic literal
  simp only [Bool.and_eq_true, Bool.not_eq_true', decide_eq_true_eq] at literal
  obtain ⟨⟨uncoded, none⟩, unbroken⟩ := literal
  intro c member
  refine ⟨(uncoded_of_needsCodes uncoded c member).resolve_right ?_, ?_⟩
  · intro same
    subst same
    simp [member] at unbroken
  · intro same
    subst same
    exact not_mem_of_longestRun none member

theorem of_literalBlock {text : List Char} (style : Style.ofText text = .literalBlock) :
    longestRun '\'' 0 text ≤ 2 ∧ ∀ c ∈ text, isPlain c = true ∨ c = '\n' := by
  simp only [Style.ofText] at style
  split_ifs at style with basic literal basicBlock literalBlock
  simp only [Bool.and_eq_true, Bool.not_eq_true', decide_eq_true_eq] at literalBlock
  exact ⟨literalBlock.2, uncoded_of_needsCodes literalBlock.1⟩

theorem break?_shown {c : Char} {shown : List Char} (shows : Shown c shown) (more : List Char) :
    break? (shown ++ more) = none := by
  cases shows with
  | self plain => exact break?_cons (ne_of_isPlain plain).1 (ne_of_isPlain plain).2 more
  | escape => exact break?_cons (by decide) (by decide) _

/-- What is written for a text without breaks does not begin with one. -/
theorem break?_escapeText {text : List Char} (unbroken : '\n' ∉ text) (run : Nat)
    {more : List Char} (stop : break? more = none) :
    break? (escapeText true run text ++ more) = none := by
  cases text with
  | nil => exact stop
  | cons c text =>
    have feed : c ≠ '\n' := fun same => unbroken (same ▸ List.mem_cons_self)
    have noFeed : ¬ decide (c = '\n') = true := by simpa using feed
    rw [escapeText, Bool.true_and, Bool.and_true, if_neg noFeed]
    by_cases quote : c = '"'
    · rw [if_pos quote]
      split <;> exact break?_cons (by decide) (by decide) _
    · rw [if_neg quote, List.append_assoc]
      exact break?_shown (shown_escapeOf? quote) _

theorem skipBreak_opening {text body : List Char} (unbroken : '\n' ∉ text → break? body = none) :
    skipBreak ((if text.contains '\n' then ['\n'] else []) ++ body) = body := by
  by_cases broken : '\n' ∈ text
  · rw [if_pos (List.contains_iff_mem.2 broken)]
    rfl
  · rw [if_neg (mt List.contains_iff_mem.1 broken), List.nil_append, skipBreak, unbroken broken]
    rfl

theorem append_opening (broken : Bool) (quotes rest : List Char) :
    (if broken = true then quotes ++ ['\n'] else quotes) ++ rest =
      quotes ++ ((if broken = true then ['\n'] else []) ++ rest) := by
  cases broken with
  | false => rfl
  | true => exact List.append_assoc _ _ _

theorem Style.exists_quotes (style : Style) :
    ∃ quote more, style.quotes = quote :: more ∧ (quote = '"' ∨ quote = '\'') := by
  cases style with
  | basic => exact ⟨'"', [], rfl, .inl rfl⟩
  | literal => exact ⟨'\'', [], rfl, .inr rfl⟩
  | basicBlock => exact ⟨'"', ['"', '"'], rfl, .inl rfl⟩
  | literalBlock => exact ⟨'\'', ['\'', '\''], rfl, .inr rfl⟩

theorem exists_printString (text : String) :
    ∃ quote more, (printString text).toList = quote :: more ∧ (quote = '"' ∨ quote = '\'') := by
  obtain ⟨quote, more, quotes, isQuote⟩ := (Style.ofText text.toList).exists_quotes
  simp only [printString, String.toList_ofList, List.append_assoc]
  rw [append_opening, quotes, List.cons_append]
  exact ⟨quote, _, rfl, isQuote⟩

theorem readQuoted_basic (text after : List Char) :
    readQuoted ('"' :: (escapeText false 0 text ++ '"' :: '\n' :: after)) =
      some (String.ofList text, '\n' :: after) := by
  rw [readQuoted]
  · exact readBasic_escapeText [] text _
  · intro rest threefold
    cases text with
    | nil => cases threefold
    | cons c text =>
      obtain ⟨shown, shows, written⟩ := exists_escapeText_cons c text
      rw [written] at threefold
      cases shows with
      | self _ _ quote => exact quote (List.cons.inj threefold).1
      | escape => exact absurd (List.cons.inj threefold).1 (by decide)

theorem readQuoted_literal {text : List Char}
    (plain : ∀ c ∈ text, isPlain c = true ∧ c ≠ '\'') (after : List Char) :
    readQuoted ('\'' :: (text ++ '\'' :: '\n' :: after)) =
      some (String.ofList text, '\n' :: after) := by
  rw [readQuoted]
  · exact readLiteral_plain plain [] _
  · intro rest threefold
    cases text with
    | nil => cases threefold
    | cons c text => exact (plain c List.mem_cons_self).2 (List.cons.inj threefold).1

theorem readQuoted_basicBlock (text after : List Char) :
    readQuoted (['"', '"', '"'] ++ ((if text.contains '\n' = true then ['\n'] else []) ++
        (escapeText true 0 text ++ '"' :: '"' :: '"' :: '\n' :: after))) =
      some (String.ofList text, '\n' :: after) := by
  have unopened (unbroken : '\n' ∉ text) :
      break? (escapeText true 0 text ++ '"' :: '"' :: '"' :: '\n' :: after) = none :=
    break?_escapeText unbroken 0 rfl
  refine (congrArg (readBasicBlock false []) (skipBreak_opening unopened)).trans ?_
  exact (blockBody_escapeText (Nat.zero_le 2) text).read_eq isBlockReader_basic (by decide) [] after

theorem readQuoted_literalBlock {text : List Char} (few : longestRun '\'' 0 text ≤ 2)
    (uncoded : ∀ c ∈ text, isPlain c = true ∨ c = '\n') (after : List Char) :
    readQuoted (['\'', '\'', '\''] ++ ((if text.contains '\n' = true then ['\n'] else []) ++
        (text ++ '\'' :: '\'' :: '\'' :: '\n' :: after))) =
      some (String.ofList text, '\n' :: after) := by
  have unopened (unbroken : '\n' ∉ text) :
      break? (text ++ '\'' :: '\'' :: '\'' :: '\n' :: after) = none := by
    cases text with
    | nil => rfl
    | cons c text =>
      have member : c ∈ c :: text := List.mem_cons_self
      have plain := (uncoded c member).resolve_right fun same => unbroken (same ▸ member)
      exact break?_cons (ne_of_isPlain plain).1 (ne_of_isPlain plain).2 _
  refine (congrArg (readLiteralBlock []) (skipBreak_opening unopened)).trans ?_
  exact (blockBody_literal few uncoded).read_eq isBlockReader_literal (by decide) [] after

/-- What is written for a text is read back, whatever line follows it. -/
theorem readQuoted_printString (text : String) (after : List Char) :
    readQuoted ((printString text).toList ++ '\n' :: after) = some (text, '\n' :: after) := by
  rw [printString, String.toList_ofList]
  cases style : Style.ofText text.toList with
  | basic =>
    have read := readQuoted_basic text.toList after
    rw [String.ofList_toList] at read
    simpa [Style.quotes, Style.isBlock] using read
  | literal =>
    have read := readQuoted_literal (of_literal style) after
    rw [String.ofList_toList] at read
    simpa [Style.quotes, Style.isBlock] using read
  | basicBlock =>
    have read := readQuoted_basicBlock text.toList after
    rw [String.ofList_toList] at read
    rw [← read]
    simp only [Style.quotes, Style.isBlock, Bool.true_and, append_opening, List.append_assoc]
    rfl
  | literalBlock =>
    obtain ⟨few, uncoded⟩ := of_literalBlock style
    have read := readQuoted_literalBlock few uncoded after
    rw [String.ofList_toList] at read
    rw [← read]
    simp only [Style.quotes, Style.isBlock, Bool.true_and, append_opening, List.append_assoc]
    rfl

end CommandSynthesis.Toml
