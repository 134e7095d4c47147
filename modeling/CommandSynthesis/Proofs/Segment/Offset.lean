import CommandSynthesis.Proofs.Segment.Canonical
import CommandSynthesis.Proofs.Segment.OffsetReader
import Mathlib

set_option autoImplicit false

/-!
# Offsets stay in order

The reader that goes by byte offsets meets no fault. It finds the same segments as the reader that
goes by characters, cuts every piece between two characters, and each turn of its loops goes on
within the text.
-/

namespace CommandSynthesis.OffsetReader

open Text (encode)

/-! ## Sound records -/

/-- The offset of a place between two characters of a text, or at one of its ends. -/
def IsPlace (chars : List Char) (offset : Nat) : Prop :=
  ∃ before after, chars = before ++ after ∧ offset = (encode before).length

/-- A piece stands between two places, a turn goes on and stays within the text, and so does a
token. -/
def Event.IsSound (chars : List Char) : Event → Prop
  | cut first last => first ≤ last ∧ IsPlace chars first ∧ IsPlace chars last
  | turn _ first last => first < last ∧ last ≤ (encode chars).length
  | token last => last ≤ (encode chars).length

/-- The reading ends without a fault and with a value, and adds only sound events to the record. -/
def Lands {α : Type} (chars : List Char) (scan : Scan α) (value : α) : Prop :=
  ∀ log, ∃ more, scan log = .ok (value, log ++ more) ∧ ∀ event ∈ more, event.IsSound chars

section Lands

variable {α β : Type} {chars : List Char}

theorem lands_pure (value : α) : Lands chars (pure value) value :=
  fun log => ⟨[], by rw [List.append_nil]; rfl, nofun⟩

theorem lands_record {event : Event} (sound : event.IsSound chars) :
    Lands chars (record event) () :=
  fun _ => ⟨[event], rfl, fun _ member => List.mem_singleton.1 member ▸ sound⟩

theorem Lands.bind {scan : Scan α} {next : α → Scan β} {value : α} {result : β}
    (first : Lands chars scan value) (second : Lands chars (next value) result) :
    Lands chars (scan >>= next) result := by
  intro log
  obtain ⟨more, scanned, sound⟩ := first log
  obtain ⟨later, ended, still⟩ := second (log ++ more)
  refine ⟨more ++ later, ?_, fun event member => ?_⟩
  · rw [← List.append_assoc, ← ended]
    change (scan log >>= fun found => next found.1 found.2) = _
    rw [scanned]
    rfl
  · exact (List.mem_append.1 member).elim (sound event) (still event)

end Lands

/-! ## Offsets of what is left -/

/-- The offset at which the rest of a text begins. -/
def offset (chars rest : List Char) : Nat :=
  (encode chars).length - (encode rest).length

section Offsets

variable {chars text rest : List Char}

theorem offset_append (before rest : List Char) :
    offset (before ++ rest) rest = (encode before).length := by
  rw [offset, Text.encode_append, List.length_append, Nat.add_sub_cancel_right]

theorem offset_self (chars : List Char) : offset chars chars = 0 := Nat.sub_self _

theorem offset_nil (chars : List Char) : offset chars [] = (encode chars).length := rfl

theorem isPlace_offset (suffix : rest <:+ chars) : IsPlace chars (offset chars rest) := by
  obtain ⟨before, rfl⟩ := suffix
  exact ⟨before, rest, rfl, offset_append before rest⟩

theorem offset_le (chars rest : List Char) : offset chars rest ≤ (encode chars).length :=
  Nat.sub_le _ _

theorem length_encode_pos {text : List Char} (filled : text ≠ []) : 0 < (encode text).length := by
  cases text with
  | nil => exact absurd rfl filled
  | cons c text =>
    rw [Text.encode_cons, List.length_append, String.length_utf8EncodeChar]
    exact Nat.lt_of_lt_of_le c.utf8Size_pos (Nat.le_add_right _ _)

/-- What is read moves the offset by its own size. -/
theorem offset_add (inner : List Char) (suffix : inner ++ rest <:+ chars) :
    offset chars (inner ++ rest) + (encode inner).length = offset chars rest := by
  obtain ⟨before, rfl⟩ := suffix
  rw [offset_append, ← List.append_assoc, offset_append, Text.encode_append, List.length_append]

theorem offset_lt_of_suffix (inner : rest <:+ text) (shorter : rest.length < text.length)
    (suffix : text <:+ chars) : offset chars text < offset chars rest := by
  obtain ⟨front, rfl⟩ := inner
  have filled : front ≠ [] := by
    intro same
    subst same
    exact Nat.lt_irrefl _ shorter
  have moved := offset_add front suffix
  have size := length_encode_pos filled
  omega

theorem offset_lt_tail {c : Char} (suffix : c :: rest <:+ chars) :
    offset chars (c :: rest) < offset chars rest :=
  offset_lt_of_suffix (List.suffix_cons c rest) (Nat.lt_succ_self _) suffix

theorem offset_char {c : Char} (suffix : c :: rest <:+ chars) :
    offset chars (c :: rest) + c.utf8Size = offset chars rest := by
  have moved := offset_add [c] suffix
  rwa [Text.encode_cons, Text.encode_nil, List.append_nil, String.length_utf8EncodeChar] at moved

theorem tail_suffix {c : Char} (suffix : c :: rest <:+ chars) : rest <:+ chars :=
  (List.suffix_cons c rest).trans suffix

theorem lands_cut (inner : List Char) (suffix : inner ++ rest <:+ chars) :
    Lands chars (cut (encode chars) (offset chars (inner ++ rest)) (offset chars rest)) inner := by
  have ordered : offset chars (inner ++ rest) ≤ offset chars rest := by
    have moved := offset_add inner suffix
    omega
  have sound : (Event.cut (offset chars (inner ++ rest)) (offset chars rest)).IsSound chars :=
    ⟨ordered, isPlace_offset suffix, isPlace_offset ((List.suffix_append inner rest).trans suffix)⟩
  have inside : ¬ (offset chars rest < offset chars (inner ++ rest) ∨
      (encode chars).length < offset chars rest) := by
    have last := offset_le chars rest
    omega
  obtain ⟨before, rfl⟩ := suffix
  have start := Text.isBoundary_encode before (inner ++ rest)
  have stop := Text.isBoundary_encode (before ++ inner) rest
  have piece := Text.decode?_between before inner rest
  rw [← offset_append before (inner ++ rest)] at start piece
  rw [← offset_append (before ++ inner) rest, List.append_assoc] at stop piece
  rw [cut, if_neg inside, if_neg (not_not.2 ⟨start, stop⟩)]
  refine (lands_record sound).bind ?_
  simp only [piece]
  exact lands_pure inner

theorem lands_cut_all (suffix : text <:+ chars) :
    Lands chars (cut (encode chars) (offset chars text) (encode chars).length) text := by
  have cutting : Lands chars
      (cut (encode chars) (offset chars (text ++ [])) (offset chars [])) text :=
    lands_cut text (by rwa [List.append_nil])
  rwa [List.append_nil, offset_nil] at cutting

end Offsets

/-! ## Bytes and characters -/

/-- A byte stands for the character that it begins, as far as ASCII goes. -/
def Shows (shown c : Char) : Prop :=
  shown = c ∨ 128 ≤ c.toNat ∧ 128 ≤ shown.toNat

theorem Shows.eq_iff {shown c d : Char} (shows : Shows shown c) (ascii : d.toNat < 128) :
    shown = d ↔ c = d := by
  rcases shows with rfl | ⟨large, large'⟩
  · exact Iff.rfl
  · constructor
    · intro same
      subst same
      omega
    · intro same
      subst same
      omega

theorem isNameChar_of_large {c : Char} (large : 128 ≤ c.toNat) : isNameChar c = false := by
  have large : 128 ≤ c.val.toNat := large
  have other {d : Char} (ascii : d.toNat < 128) : (c == d) = false := by
    rw [beq_eq_false_iff_ne]
    intro same
    subst same
    exact absurd large (Nat.not_le.2 ascii)
  have beyond : c.isAlphanum = false := by
    simp [Char.isAlphanum, Char.isAlpha, Char.isUpper, Char.isLower, Char.isDigit,
      UInt32.le_iff_toNat_le]
    omega
  rw [CommandSynthesis.isNameChar, beyond, other (by decide), other (by decide), other (by decide)]
  rfl

theorem ascii_of_isNameStart {c : Char} (start : isNameStart c = true) : c.toNat < 128 := by
  by_contra large
  have isChar := isNameChar_of_isNameStart start
  rw [isNameChar_of_large (Nat.not_lt.1 large)] at isChar
  cases isChar

theorem Shows.isNameStart {shown c : Char} (shows : Shows shown c) :
    isNameStart shown = isNameStart c := by
  have none {d : Char} (large : 128 ≤ d.toNat) : CommandSynthesis.isNameStart d = false :=
    Bool.eq_false_iff.2 fun start => Nat.not_lt.2 large (ascii_of_isNameStart start)
  rcases shows with rfl | ⟨large, large'⟩
  · rfl
  · rw [none large, none large']

section Places

variable {chars text rest : List Char}

theorem getElem?_offset_nil : (encode chars)[offset chars []]? = none := by
  rw [offset_nil, Text.getElem?_encode_end]

theorem getElem?_offset {c : Char} (suffix : c :: rest <:+ chars) :
    ∃ byte, (encode chars)[offset chars (c :: rest)]? = some byte ∧ Shows (Text.ofByte byte) c := by
  obtain ⟨before, rfl⟩ := suffix
  obtain ⟨byte, found, _, shows⟩ := Text.getElem?_encode before c rest
  exact ⟨byte, by rw [offset_append, found], shows⟩

theorem takeWhile_encode (text : List Char) :
    (encode text).takeWhile (fun byte => isNameChar (Text.ofByte byte)) =
      encode (text.takeWhile isNameChar) := by
  induction text with
  | nil => rfl
  | cons c text ih =>
    rw [Text.encode_cons]
    rcases Text.utf8EncodeChar_cases c with
      ⟨byte, bytes, same, _⟩ | ⟨large, byte, tail, bytes, high⟩
    · rw [bytes, List.singleton_append, List.takeWhile_cons, List.takeWhile_cons, same, ih]
      split
      · rw [Text.encode_cons, bytes, List.singleton_append]
      · rfl
    · have high : 128 ≤ (Text.ofByte byte).toNat := by
        rw [Text.toNat_ofByte]
        omega
      rw [bytes, List.cons_append, List.takeWhile_cons, List.takeWhile_cons,
        isNameChar_of_large high, isNameChar_of_large large]
      rfl

theorem drop_offset (suffix : rest <:+ chars) :
    (encode chars).drop (offset chars rest) = encode rest := by
  obtain ⟨before, rfl⟩ := suffix
  rw [offset_append, Text.encode_append, List.drop_left]

theorem offset_ascii {c : Char} (ascii : c.toNat < 128) (suffix : c :: rest <:+ chars) :
    offset chars (c :: rest) + 1 = offset chars rest := by
  have moved := offset_char suffix
  have single : c.utf8Size = 1 := by
    rw [Char.utf8Size_eq_one_iff, UInt32.le_iff_toNat_le]
    exact Nat.le_of_lt_succ ascii
  rwa [single] at moved

theorem nameEnd?_offset (suffix : text <:+ chars) :
    nameEnd? (encode chars) (offset chars text) =
      (takeName? text).map fun named => offset chars named.2 := by
  cases text with
  | nil => rw [nameEnd?, getElem?_offset_nil]; rfl
  | cons c text =>
    obtain ⟨byte, found, shows⟩ := getElem?_offset suffix
    simp only [nameEnd?, found, takeName?, shows.isNameStart]
    by_cases start : isNameStart c = true
    · rw [if_pos start, if_pos start, offset_ascii (ascii_of_isNameStart start) suffix,
        drop_offset (tail_suffix suffix), takeWhile_encode, Option.map_some]
      have moved : offset chars (text.takeWhile isNameChar ++ text.dropWhile isNameChar) +
          (encode (text.takeWhile isNameChar)).length = offset chars (text.dropWhile isNameChar) :=
        offset_add _ (by rw [List.takeWhile_append_dropWhile]; exact tail_suffix suffix)
      rw [List.takeWhile_append_dropWhile] at moved
      rw [moved]
    · rw [if_neg start, if_neg start]
      rfl

theorem lands_reference? (suffix : '{' :: text <:+ chars) :
    Lands chars (reference? (encode chars) (offset chars ('{' :: text)))
      ((takeReference? text).map fun taken => (String.ofList taken.1, offset chars taken.2)) := by
  have tail := tail_suffix suffix
  rw [reference?, offset_ascii (by decide) suffix, nameEnd?_offset tail, takeReference?]
  cases named : takeName? text with
  | none => exact lands_pure none
  | some found =>
    obtain ⟨name, after⟩ := found
    have split := append_of_takeName? named
    subst split
    have cutting := lands_cut name tail
    have behind : after <:+ chars := (List.suffix_append name after).trans tail
    simp only [Option.map_some]
    cases after with
    | nil =>
      rw [getElem?_offset_nil]
      exact lands_pure none
    | cons c rest =>
      obtain ⟨byte, found, shows⟩ := getElem?_offset behind
      have shownClose : some (Text.ofByte byte) = some '}' ↔ c = '}' := by
        rw [Option.some.injEq, shows.eq_iff (by decide)]
      rw [found, Option.map_some]
      by_cases close : c = '}'
      · subst close
        rw [if_pos (shownClose.2 rfl), offset_ascii (by decide) behind]
        exact cutting.bind (lands_pure _)
      · rw [if_neg (mt shownClose.1 close)]
        split
        · next same =>
          cases same
          exact absurd rfl close
        · exact lands_pure none

end Places

/-! ## The branches -/

section Branches

variable {chars text rest : List Char} {reader : BranchReader}

theorem branchStep_shown {shown c : Char} (shows : Shows shown c) (bytes : List UInt8)
    (reader : BranchReader) (place : Nat) :
    branchStep bytes reader place shown = branchStep bytes reader place c := by
  simp only [branchStep, shows.eq_iff (d := '|') (by decide), shows.eq_iff (d := '}') (by decide),
    shows.eq_iff (d := ':') (by decide), shows.eq_iff (d := '{') (by decide)]

theorem branchTurn_offset {c : Char} (suffix : c :: rest <:+ chars) :
    branchTurn (encode chars) reader (offset chars (c :: rest)) =
      branchStep (encode chars) reader (offset chars (c :: rest)) c := by
  obtain ⟨byte, found, shows⟩ := getElem?_offset suffix
  rw [branchTurn, found]
  exact branchStep_shown shows _ _ _

theorem lands_turn {loop : Loop} {first last : Nat} (onward : first < last)
    (within : last ≤ (encode chars).length) : Lands chars (record (.turn loop first last)) () :=
  lands_record ⟨onward, within⟩

/-- A turn that goes on is followed by the others. -/
theorem lands_branches_goOn {next : BranchReader} {result : Option (BranchReader × Nat)}
    (onward : offset chars text < offset chars rest)
    (turn : Lands chars (branchTurn (encode chars) reader (offset chars text))
      (.goOn next (offset chars rest)))
    (others : Lands chars (branches (encode chars) next (offset chars rest)) result) :
    Lands chars (branches (encode chars) reader (offset chars text)) result := by
  have within := offset_le chars rest
  rw [branches]
  refine turn.bind ((lands_turn onward within).bind ?_)
  rwa [if_pos ⟨onward, within⟩]

theorem not_ends {c : Char} {depth : Nat} (notClosing : ¬ (c = '}' ∧ depth = 0))
    (noBar : ¬ (c = '|' ∧ depth = 0)) : ¬ ((c = '|' ∨ c = '}') ∧ depth = 0) := by
  rintro ⟨rfl | rfl, atZero⟩
  · exact noBar ⟨rfl, atZero⟩
  · exact notClosing ⟨rfl, atZero⟩

theorem lands_branches (suffix : text <:+ chars) :
    Lands chars (branches (encode chars) reader (offset chars text))
      ((reader.read text).map fun closed => (closed.1, offset chars closed.2)) := by
  fun_induction BranchReader.read reader text with
  | case1 reader =>
    rw [branches, branchTurn, getElem?_offset_nil]
    exact (lands_pure Outcome.unclosed).bind (lands_pure none)
  | case2 reader c rest closing =>
    obtain ⟨rfl, depth⟩ := closing
    rw [branches, branchTurn_offset suffix, branchStep, if_pos ⟨.inr rfl, depth⟩, if_pos rfl,
      offset_ascii (by decide) suffix]
    exact (lands_pure _).bind
      ((lands_turn (offset_lt_tail suffix) (offset_le chars rest)).bind (lands_pure _))
  | case3 reader c rest notClosing bar ih =>
    obtain ⟨rfl, depth⟩ := bar
    refine lands_branches_goOn (offset_lt_tail suffix) ?_ (ih (tail_suffix suffix))
    rw [branchTurn_offset suffix, branchStep, if_pos ⟨.inl rfl, depth⟩, if_neg (by decide),
      offset_ascii (by decide) suffix]
    exact lands_pure _
  | case4 reader c rest notClosing noBar colon ih =>
    refine lands_branches_goOn (offset_lt_tail suffix) ?_ (ih (tail_suffix suffix))
    rw [branchTurn_offset suffix, branchStep, if_neg (not_ends notClosing noBar), if_pos colon,
      offset_ascii (colon.1 ▸ by decide) suffix]
    exact lands_pure _
  | case5 reader rest name after taken notClosing noBar noColon ih =>
    have split := append_of_takeReference? taken
    subst split
    have inner : after <:+ '{' :: (name ++ '}' :: after) :=
      ⟨'{' :: (name ++ ['}']), by rw [List.cons_append, List.append_assoc, List.singleton_append]⟩
    refine lands_branches_goOn (offset_lt_of_suffix inner (by simp; omega) suffix) ?_
      (ih (inner.trans suffix))
    rw [branchTurn_offset suffix, branchStep, if_neg (not_ends notClosing noBar), if_neg noColon,
      if_pos rfl]
    have reading := lands_reference? suffix
    rw [taken] at reading
    exact reading.bind (lands_pure _)
  | case6 reader rest missing notClosing noBar noColon ih =>
    refine lands_branches_goOn (offset_lt_tail suffix) ?_ (ih (tail_suffix suffix))
    rw [branchTurn_offset suffix, branchStep, if_neg (not_ends notClosing noBar), if_neg noColon,
      if_pos rfl, offset_ascii (by decide) suffix]
    have reading := lands_reference? suffix
    rw [missing] at reading
    exact reading.bind (lands_pure _)
  | case7 reader rest notClosing noBar noColon noBrace ih =>
    refine lands_branches_goOn (offset_lt_tail suffix) ?_ (ih (tail_suffix suffix))
    -- The depth is not zero here, where it would be counted down: the brace would have ended the
    -- branches.
    rw [branchTurn_offset suffix, branchStep, if_neg (not_ends notClosing noBar), if_neg noColon,
      if_neg noBrace, if_pos rfl, if_neg fun depth => notClosing ⟨rfl, depth⟩,
      offset_ascii (by decide) suffix]
    exact lands_pure _
  | case8 reader c rest notClosing noBar noColon noBrace noClosing ih =>
    refine lands_branches_goOn (offset_lt_tail suffix) ?_ (ih (tail_suffix suffix))
    rw [branchTurn_offset suffix, branchStep, if_neg (not_ends notClosing noBar), if_neg noColon,
      if_neg noBrace, if_neg noClosing, ← offset_char suffix]
    exact (lands_cut_all suffix).bind (lands_pure _)

end Branches

/-! ## Tokens -/

section Tokens

variable {chars text rest : List Char}

theorem exists_of_read {reader final : BranchReader}
    (closed : reader.read text = some (final, rest)) : ∃ inside, text = inside ++ '}' :: rest := by
  have skipped := BranchReader.rest_read reader text
  rw [closed, Option.map_some] at skipped
  obtain ⟨inside, split, _⟩ := Brace.afterClose?_eq_some_iff.1 skipped.symm
  exact ⟨inside, split⟩

theorem take_before (front rest : List Char) :
    (front ++ rest).take ((front ++ rest).length - rest.length) = front := by
  rw [List.length_append, Nat.add_sub_cancel_right, List.take_left]

theorem lands_token? (suffix : '{' :: text <:+ chars) :
    Lands chars (token? (encode chars) (offset chars ('{' :: text)))
      ((CommandSynthesis.token? text).map fun found => (found.1, offset chars found.2)) := by
  have tail := tail_suffix suffix
  rw [token?, offset_ascii (by decide) suffix, nameEnd?_offset tail]
  cases named : takeName? text with
  | none =>
    simp only [CommandSynthesis.token?, named]
    exact lands_pure none
  | some found =>
    obtain ⟨name, after⟩ := found
    have split := append_of_takeName? named
    subst split
    have behind : after <:+ chars := (List.suffix_append name after).trans tail
    rw [Option.map_some]
    refine (lands_cut name tail).bind ?_
    cases after with
    | nil =>
      simp only [CommandSynthesis.token?, named, getElem?_offset_nil]
      exact lands_pure none
    | cons c body =>
      obtain ⟨byte, found, shows⟩ := getElem?_offset behind
      rw [found, Option.map_some]
      by_cases close : c = '}'
      · subst close
        simp only [CommandSynthesis.token?, named, (shows.eq_iff (by decide)).2 rfl,
          offset_ascii (by decide) behind]
        exact lands_pure _
      by_cases bar : c = '|'
      · subst bar
        simp only [CommandSynthesis.token?, named, (shows.eq_iff (by decide)).2 rfl,
          offset_ascii (by decide) behind]
        refine (lands_branches (tail_suffix behind)).bind ?_
        cases closed : BranchReader.read {} body with
        | none => exact lands_pure none
        | some ended =>
          obtain ⟨final, rest⟩ := ended
          obtain ⟨inside, split⟩ := exists_of_read closed
          have whole : name ++ '|' :: body = (name ++ '|' :: inside ++ ['}']) ++ rest := by
            rw [split, List.append_assoc, List.append_assoc]
            rfl
          simp only [Option.map_some, whole, take_before] at suffix ⊢
          exact (lands_cut ('{' :: (name ++ '|' :: inside ++ ['}'])) suffix).bind
            (lands_pure _)
      · rw [token?_other named close bar]
        split
        · next same =>
          exact absurd ((shows.eq_iff (by decide)).1 (Option.some.inj same)) close
        · next same =>
          exact absurd ((shows.eq_iff (by decide)).1 (Option.some.inj same)) bar
        · exact lands_pure none

end Tokens

/-! ## The whole text -/

theorem braceOffset?_eq_none {text : List Char} (plain : ∀ c ∈ text, c ≠ '{') :
    braceOffset? text = none := by
  induction text with
  | nil => rfl
  | cons c text ih =>
    rw [braceOffset?, if_neg (plain c List.mem_cons_self),
      ih fun d member => plain d (List.mem_cons_of_mem c member), Option.map_none]

theorem braceOffset?_append {plain : List Char} (isPlain : ∀ c ∈ plain, c ≠ '{')
    (rest : List Char) : braceOffset? (plain ++ '{' :: rest) = some (encode plain).length := by
  induction plain with
  | nil => rfl
  | cons c plain ih =>
    rw [List.cons_append, braceOffset?, if_neg (isPlain c List.mem_cons_self),
      ih fun d member => isPlain d (List.mem_cons_of_mem c member), Option.map_some,
      Text.encode_cons, List.length_append, String.length_utf8EncodeChar]

theorem readSegments_plain {plain : List Char} (isPlain : ∀ c ∈ plain, c ≠ '{') (literal : String)
    (rest : List Char) :
    readSegments literal (plain ++ rest) = readSegments (literal ++ String.ofList plain) rest := by
  induction plain generalizing literal with
  | nil => rw [List.nil_append, String.ofList_nil, String.append_empty]
  | cons c plain ih =>
    rw [List.cons_append, readSegments_char (isPlain c List.mem_cons_self),
      ih fun d member => isPlain d (List.mem_cons_of_mem c member)]
    congr 1
    exact String.toList_injective (by simp)

theorem endLiteral_cons (literal : String) (segment : Segment) (more : List Segment) :
    endLiteral literal (segment :: more) = endLiteral literal [segment] ++ more := by
  unfold endLiteral
  split <;> rfl

section Template

variable {chars text rest : List Char}

theorem lands_templateTurn_plain (plain : ∀ c ∈ text, c ≠ '{') (suffix : text <:+ chars)
    (segments : List Segment) (literal : String) :
    Lands chars (templateTurn (encode chars) ⟨segments, literal, offset chars text⟩)
      ⟨segments, literal ++ String.ofList text, offset chars []⟩ := by
  refine (lands_cut_all suffix).bind ?_
  rw [braceOffset?_eq_none plain]
  exact lands_pure _

/-- A turn at a text whose first brace stands where `rest` begins. -/
theorem lands_templateTurn_brace {plain : List Char} (isPlain : ∀ c ∈ plain, c ≠ '{')
    (suffix : plain ++ '{' :: rest <:+ chars) (segments : List Segment) (literal : String) :
    Lands chars
      (templateTurn (encode chars) ⟨segments, literal, offset chars (plain ++ '{' :: rest)⟩)
      (match CommandSynthesis.token? rest with
        | some (segment, after) =>
          ⟨segments ++ endLiteral (literal ++ String.ofList plain) [segment], "",
            offset chars after⟩
        | none => ⟨segments, (literal ++ String.ofList plain).push '{', offset chars rest⟩) := by
  have brace : '{' :: rest <:+ chars := (List.suffix_append plain _).trans suffix
  refine (lands_cut_all suffix).bind ?_
  rw [braceOffset?_append isPlain]
  simp only [offset_add plain suffix]
  refine (lands_cut plain suffix).bind ((lands_token? brace).bind ?_)
  cases found : CommandSynthesis.token? rest with
  | none =>
    rw [← offset_ascii (by decide) brace]
    exact lands_pure _
  | some token =>
    obtain ⟨segment, after⟩ := token
    have sound : (Event.token (offset chars after)).IsSound chars := offset_le chars after
    exact (lands_record sound).bind (lands_pure _)

theorem lands_template_goOn {draft next : Draft} {segments : List Segment}
    (onward : draft.place < next.place) (within : next.place ≤ (encode chars).length)
    (turn : Lands chars (templateTurn (encode chars) draft) next)
    (others : Lands chars (template (encode chars) next) segments) :
    Lands chars (template (encode chars) draft) segments := by
  rw [template, if_pos (Nat.lt_of_lt_of_le onward within)]
  refine turn.bind ((lands_turn onward within).bind ?_)
  rwa [if_pos ⟨onward, within⟩]

theorem lands_template_nil (segments : List Segment) (literal : String) :
    Lands chars (template (encode chars) ⟨segments, literal, offset chars []⟩)
      (segments ++ endLiteral literal []) := by
  rw [template, offset_nil, if_neg (Nat.lt_irrefl _)]
  exact lands_pure _

theorem lands_template (suffix : text <:+ chars) (segments : List Segment) (literal : String) :
    Lands chars (template (encode chars) ⟨segments, literal, offset chars text⟩)
      (segments ++ readSegments literal text) := by
  -- By the length of what is left, as a token takes more than one character.
  induction size : text.length using Nat.strong_induction_on
    generalizing text segments literal with
  | _ _ ih =>
  subst size
  have onward {rest : List Char} (tail : rest <:+ text) (shorter : rest.length < text.length) :=
    offset_lt_of_suffix tail shorter suffix
  by_cases braced : '{' ∈ text
  · obtain ⟨plain, rest, rfl, noBrace⟩ := List.eq_append_cons_of_mem braced
    have isPlain : ∀ c ∈ plain, c ≠ '{' := fun c member same => noBrace (same ▸ member)
    have brace : '{' :: rest <:+ plain ++ '{' :: rest := List.suffix_append plain _
    have turn := lands_templateTurn_brace isPlain suffix segments literal
    rw [readSegments_plain isPlain]
    cases found : CommandSynthesis.token? rest with
    | none =>
      have shorter : rest.length < (plain ++ '{' :: rest).length := by simp; omega
      have tail : rest <:+ plain ++ '{' :: rest := tail_suffix brace
      rw [found] at turn
      rw [readSegments_brace found]
      exact lands_template_goOn (onward tail shorter) (offset_le chars rest) turn
        (ih _ shorter (tail.trans suffix) _ _ rfl)
    | some token =>
      obtain ⟨segment, after⟩ := token
      have shorter : after.length < (plain ++ '{' :: rest).length := by
        have less := length_of_token? found
        simp
        omega
      have tail : after <:+ plain ++ '{' :: rest :=
        List.IsSuffix.trans ⟨_, (begins_of_token? found).toList_source.symm⟩ brace
      rw [found] at turn
      rw [readSegments_token found, endLiteral_cons, ← List.append_assoc]
      exact lands_template_goOn (onward tail shorter) (offset_le chars after) turn
        (ih _ shorter (tail.trans suffix) _ _ rfl)
  · have isPlain : ∀ c ∈ text, c ≠ '{' := fun c member same => braced (same ▸ member)
    have read := readSegments_plain isPlain literal []
    rw [List.append_nil] at read
    rw [read, readSegments_nil]
    cases text with
    | nil => simpa using lands_template_nil segments literal
    | cons c text =>
      exact lands_template_goOn (onward List.nil_suffix (Nat.succ_pos _)) (offset_le chars [])
        (lands_templateTurn_plain isPlain suffix segments literal) (lands_template_nil _ _)

end Template

/-- No text makes the reading by offsets end in a fault. It finds the segments, every piece it cuts
out stands between characters, and every turn and token it records keeps within the text. -/
theorem read_sound (text : String) :
    ∃ log, read text = .ok (Segment.read text, log) ∧ ∀ event ∈ log, event.IsSound text.toList := by
  obtain ⟨log, landed, sound⟩ := lands_template (List.suffix_refl text.toList) [] "" []
  rw [offset_self, List.nil_append] at landed
  refine ⟨log, ?_, sound⟩
  rw [read, Text.bytes_eq_encode]
  exact landed

/-- The record of a text with two characters of two bytes each. -/
theorem read_sound_umlauts :
    ∃ log, read "ü{a|ö}{b}" = .ok (Segment.read "ü{a|ö}{b}", log) ∧
      log = [.cut 0 11, .cut 0 2, .cut 3 4, .cut 5 11, .turn .branches 5 7, .turn .branches 7 8,
        .cut 2 8, .token 8, .turn .template 0 8, .cut 8 11, .cut 8 8, .cut 9 10, .token 11,
        .turn .template 8 11] ∧
      (Event.cut 0 2).IsSound "ü{a|ö}{b}".toList ∧
      (Event.turn .branches 5 7).IsSound "ü{a|ö}{b}".toList ∧
      (Event.token 11).IsSound "ü{a|ö}{b}".toList := by
  obtain ⟨log, landed, sound⟩ := read_sound "ü{a|ö}{b}"
  have recorded : (read "ü{a|ö}{b}").toOption.map Prod.snd = some log := by
    rw [landed]
    rfl
  have same : log = [.cut 0 11, .cut 0 2, .cut 3 4, .cut 5 11, .turn .branches 5 7,
      .turn .branches 7 8, .cut 2 8, .token 8, .turn .template 0 8, .cut 8 11, .cut 8 8, .cut 9 10,
      .token 11, .turn .template 8 11] := by
    rw [← Option.some.injEq, ← recorded]
    cbv
  refine ⟨log, landed, same, sound _ ?_, sound _ ?_, sound _ ?_⟩
  all_goals rw [same]; decide

end CommandSynthesis.OffsetReader
