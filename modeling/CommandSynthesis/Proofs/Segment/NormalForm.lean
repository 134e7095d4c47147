import CommandSynthesis.Proofs.Segment.Recognition

set_option autoImplicit false

/-!
# Reading loses nothing

The texts that the segments of a template were read from make up the template again, and the
segments are in normal form: literals are not empty, no two of them meet, and none of them holds a
token that its neighbours only hide.
-/

namespace CommandSynthesis

namespace Segment

/-- The texts that segments were read from, one after another. -/
def sourceAll (segments : List Segment) : String :=
  String.join (segments.map source)

/-- Literals are not empty and do not meet, and each of them is read as itself. -/
structure IsNormal (segments : List Segment) : Prop where
  filled : .literal "" ∉ segments
  apart : ∀ left right, ¬ [.literal left, .literal right] <:+: segments
  alone : ∀ text, .literal text ∈ segments → read text = [.literal text]

@[simp] theorem toList_sourceAll_nil : (sourceAll []).toList = [] := rfl

@[simp] theorem toList_sourceAll_cons (segment : Segment) (segments : List Segment) :
    (sourceAll (segment :: segments)).toList =
      segment.source.toList ++ (sourceAll segments).toList := by
  simp [sourceAll, String.toList_join]

theorem toList_sourceAll_endLiteral (literal : String) (segments : List Segment) :
    (sourceAll (endLiteral literal segments)).toList =
      literal.toList ++ (sourceAll segments).toList := by
  unfold endLiteral
  split
  · next empty => rw [empty, String.toList_empty, List.nil_append]
  · exact toList_sourceAll_cons _ _

theorem Begins.toList_source {text rest : List Char} {segment : Segment}
    (begins : Begins text segment.sketch rest) : text = segment.source.toList ++ rest := by
  cases segment with
  | literal content => cases begins
  | simple name =>
    cases begins with
    | simple longest => rw [longest.split]; simp [source, referenceText]
  | conditional cond =>
    cases begins with
    | conditional _ _ split => exact split

/-- What follows a token plays no part in it. -/
theorem Begins.append {text rest : List Char} {sketch : Sketch}
    (begins : Begins ('{' :: text) sketch rest) (more : List Char) :
    Begins ('{' :: (text ++ more)) sketch (rest ++ more) := by
  have extend {name tail : List Char} {c : Char} (longest : LongestName text name (c :: tail)) :
      LongestName (text ++ more) name (c :: (tail ++ more)) := by
    refine ⟨?_, longest.isName, longest.longest⟩
    rw [longest.split, List.append_assoc, List.cons_append]
  cases begins with
  | simple longest => exact .simple (extend longest)
  | conditional longest encloses split =>
    obtain ⟨front, nonempty, even, first⟩ := encloses
    refine .conditional (extend longest) ⟨?_, nonempty, even, first⟩ ?_
    · exact front.trans (List.prefix_append ('{' :: text) more)
    · rw [← List.append_assoc, ← split, List.cons_append]

end Segment

open Segment

theorem token?_of_append {text more : List Char} (missing : token? (text ++ more) = none) :
    token? text = none := by
  cases found : token? text with
  | none => rfl
  | some token =>
    obtain ⟨_, longer, _⟩ := token?_of_begins ((begins_of_token? found).append more)
    rw [missing] at longer
    cases longer

/-- No token begins in a text when it is read with the rest behind it. -/
def Inert (text rest : List Char) : Prop :=
  ∀ before after, text = before ++ '{' :: after → token? (after ++ rest) = none

theorem inert_nil (rest : List Char) : Inert [] rest := by
  intro before after split
  cases before <;> cases split

theorem Inert.alone {text rest : List Char} (inert : Inert text rest) : Inert text [] := by
  intro before after split
  rw [List.append_nil]
  exact token?_of_append (inert before after split)

theorem Inert.push {text rest : List Char} {c : Char} (inert : Inert text (c :: rest))
    (missing : c = '{' → token? rest = none) : Inert (text ++ [c]) rest := by
  intro before after split
  rcases List.eq_nil_or_concat after with rfl | ⟨inner, d, rfl⟩
  · obtain ⟨rfl, same⟩ := List.append_inj' split rfl
    exact missing (List.singleton_inj.1 same)
  · rw [List.concat_eq_append, ← List.cons_append, ← List.append_assoc] at split
    obtain ⟨same, last⟩ := List.append_inj' split rfl
    cases last
    rw [List.concat_eq_append, List.append_assoc]
    exact inert before inner same

theorem Inert.tail {text rest : List Char} {c : Char} (inert : Inert (c :: text) rest) :
    Inert text rest := by
  intro before after split
  exact inert (c :: before) after (by rw [split, List.cons_append])

/-- A text without tokens is added to the literal before it. -/
theorem readSegments_of_inert {text : List Char} (inert : Inert text []) (literal : String) :
    readSegments literal text = endLiteral (literal ++ String.ofList text) [] := by
  induction text generalizing literal with
  | nil => rw [readSegments_nil, String.ofList_nil, String.append_empty]
  | cons c text ih =>
    have missing : c = '{' → token? text = none := by
      intro brace
      subst brace
      have token := inert [] text rfl
      rwa [List.append_nil] at token
    rw [readSegments_missing missing, ih inert.tail]
    congr 1
    simp [String.ext_iff]

namespace Segment

theorem isNormal_nil : IsNormal [] where
  filled := List.not_mem_nil
  apart left right met := by
    cases List.eq_nil_of_infix_nil met
  alone text member := absurd member List.not_mem_nil

/-- A token may stand before segments in normal form. -/
theorem IsNormal.token {segment : Segment} {segments : List Segment} (normal : IsNormal segments)
    (token : ∀ text, segment ≠ .literal text) : IsNormal (segment :: segments) where
  filled member := by
    rcases List.mem_cons.1 member with same | member
    · exact token "" same.symm
    · exact normal.filled member
  apart left right met := by
    rcases List.infix_cons_iff.1 met with front | met
    · exact token left (List.cons_prefix_cons.1 front).1.symm
    · exact normal.apart left right met
  alone text member := by
    rcases List.mem_cons.1 member with same | member
    · exact absurd same.symm (token text)
    · exact normal.alone text member

/-- A literal without tokens may stand before segments in normal form that begin with no
literal. -/
theorem IsNormal.literal {literal : String} {segments : List Segment} (normal : IsNormal segments)
    (inert : Inert literal.toList []) (token : ∀ text, segments.head? ≠ some (.literal text)) :
    IsNormal (endLiteral literal segments) := by
  have alone : literal ≠ "" → read literal = [.literal literal] := by
    intro filled
    rw [read, readSegments_of_inert inert, String.empty_append, String.ofList_toList, endLiteral,
      if_neg filled]
  unfold endLiteral
  split
  · exact normal
  · next filled =>
    refine ⟨fun member => ?_, fun left right met => ?_, fun text member => ?_⟩
    · rcases List.mem_cons.1 member with same | member
      · exact filled (Segment.literal.inj same).symm
      · exact normal.filled member
    · rcases List.infix_cons_iff.1 met with front | met
      · obtain ⟨rest, split⟩ := (List.cons_prefix_cons.1 front).2
        exact token right (by rw [← split]; rfl)
      · exact normal.apart left right met
    · rcases List.mem_cons.1 member with same | member
      · cases same
        exact alone filled
      · exact normal.alone text member

end Segment

theorem ne_literal_of_token? {text rest : List Char} {segment : Segment}
    (found : token? text = some (segment, rest)) (literal : String) :
    segment ≠ .literal literal := by
  rintro rfl
  exact (begins_of_token? found).ne_literal _ rfl

theorem toList_sourceAll_readSegments (literal : String) (text : List Char) :
    (sourceAll (readSegments literal text)).toList = literal.toList ++ text := by
  induction text using token_induction generalizing literal with
  | nil => rw [readSegments_nil, toList_sourceAll_endLiteral, toList_sourceAll_nil]
  | token text segment rest found ih =>
    rw [readSegments_token found, toList_sourceAll_endLiteral, toList_sourceAll_cons, ih,
      String.toList_empty, List.nil_append, ← (begins_of_token? found).toList_source]
  | char c text missing ih =>
    rw [readSegments_missing missing, ih, String.toList_push, List.append_assoc,
      List.singleton_append]

/-- What is read after a literal is in normal form as long as no token begins in the literal. -/
theorem isNormal_readSegments {literal : String} {text : List Char}
    (inert : Inert literal.toList text) : IsNormal (readSegments literal text) := by
  induction text using token_induction generalizing literal with
  | nil =>
    rw [readSegments_nil]
    exact isNormal_nil.literal inert.alone nofun
  | token text segment rest found ih =>
    have token := ne_literal_of_token? found
    have tail : IsNormal (segment :: readSegments "" rest) := (@ih "" (inert_nil rest)).token token
    rw [readSegments_token found]
    exact tail.literal inert.alone fun text same => token text (Option.some.inj same)
  | char c text missing ih =>
    rw [readSegments_missing missing]
    apply ih
    rw [String.toList_push]
    exact inert.push missing

theorem Segment.sourceAll_of_read (template : String) : sourceAll (read template) = template := by
  apply String.toList_inj.1
  rw [read, toList_sourceAll_readSegments, String.toList_empty, List.nil_append]

/-- Reading keeps every character of a template and gives segments in normal form. -/
theorem Segment.sourceAll_read (template : String) :
    sourceAll (read template) = template ∧ IsNormal (read template) := by
  constructor
  · exact sourceAll_of_read template
  · exact isNormal_readSegments (inert_nil template.toList)

end CommandSynthesis
