import CommandSynthesis.Proofs.Segment.Mention
import CommandSynthesis.Proofs.Synthesis.Resolution

set_option autoImplicit false

/-!
# Names in the order of the text

The names that a template lists are among those that its tokens mention. They are all of these, in
the order of their first mention, when every conditional keeps its clauses in order; and so are the
names of which strict synthesis says that no input has them.
-/

namespace CommandSynthesis

open Brace

/-! ## First mentions -/

/-- The names are those mentioned, each once, in the order of their first mention: some mention of
the earlier of two names comes before all mentions of the later. -/
structure ListsFirsts (mentions names : List String) : Prop where
  nodup : names.Nodup
  mem : ∀ name, name ∈ names ↔ name ∈ mentions
  ordered : names.Pairwise fun earlier later =>
    ∃ before after, mentions = before ++ earlier :: after ∧ later ∉ before

theorem pairwise_eraseDups (mentions : List String) :
    mentions.eraseDups.Pairwise fun earlier later =>
      ∃ before after, mentions = before ++ earlier :: after ∧ later ∉ before := by
  cases mentions with
  | nil => exact .nil
  | cons name rest =>
    rw [List.eraseDups_cons]
    refine .cons (fun later _ => ⟨[], rest, rfl, List.not_mem_nil⟩) ?_
    refine (pairwise_eraseDups (rest.filter fun other => !other == name)).imp_of_mem ?_
    rintro earlier later - member ⟨before, after, filtered, absent⟩
    -- What was left out before the earlier name are mentions of the first name.
    obtain ⟨front, back, rfl, rfl, remaining⟩ := List.filter_eq_append_iff.1 filtered
    obtain ⟨skipped, back, rfl, dropped, -, -⟩ := List.filter_eq_cons_iff.1 remaining
    have kept := (List.mem_filter.1 (List.mem_eraseDups.1 member)).2
    refine ⟨name :: (front ++ skipped), back, by simp, ?_⟩
    rw [List.mem_cons, List.mem_append]
    rintro (rfl | member | member)
    · simp at kept
    · exact absent (List.mem_filter.2 ⟨member, kept⟩)
    · exact dropped later member kept
termination_by mentions.length
decreasing_by
  exact Nat.lt_succ_of_le (List.length_filter_le _ _)

theorem listsFirsts_eraseDups (mentions : List String) :
    ListsFirsts mentions mentions.eraseDups where
  nodup := nodup_eraseDups mentions
  mem _ := List.mem_eraseDups
  ordered := pairwise_eraseDups mentions

/-- What is left of the names is listed like what is left of the mentions. -/
theorem ListsFirsts.filter {mentions names : List String} (lists : ListsFirsts mentions names)
    (keep : String → Bool) : ListsFirsts (mentions.filter keep) (names.filter keep) where
  nodup := lists.nodup.filter keep
  mem name := by rw [List.mem_filter, List.mem_filter, lists.mem]
  ordered := by
    rw [List.pairwise_filter]
    refine lists.ordered.imp ?_
    rintro earlier later ⟨before, after, rfl, absent⟩ kept _
    refine ⟨before.filter keep, after.filter keep, by simp [kept], fun member => ?_⟩
    exact absent (List.mem_filter.1 member).1

theorem eraseDups_of_nodup {names : List String} (distinct : names.Nodup) :
    names.eraseDups = names := by
  induction names with
  | nil => rfl
  | cons name rest ih =>
    obtain ⟨absent, distinct⟩ := List.nodup_cons.1 distinct
    have others : rest.filter (fun other => !other == name) = rest := by
      refine List.filter_eq_self.2 fun other member => ?_
      have different : other ≠ name := fun same => absent (same ▸ member)
      simpa using different
    rw [List.eraseDups_cons, others, ih distinct]

namespace Segment

/-! ## What tokens mention -/

/-- The token mentions the names, in this order: a reference its name, a conditional its own name
and then those of the references in it. -/
inductive Mentions : Sketch → List String → Prop where
  | literal {text : List Char} : Mentions (.literal text) []
  | simple {name : List Char} : Mentions (.simple name) [String.ofList name]
  | conditional {name inside : List Char} {parts : List Part} :
      Part.Splits inside parts →
      Mentions (.conditional name ('{' :: (name ++ '|' :: inside ++ ['}'])))
        (String.ofList name :: Part.references parts)

/-- The clauses of the token keep their names in order. -/
def Sketch.KeepsOrder : Sketch → Prop
  | .conditional name raw =>
    ∃ clauses, raw = conditionalText name clauses ∧ (∀ clause ∈ clauses, IsClause 0 clause) ∧
      KeepOrder clauses
  | .literal _ | .simple _ => True

/-- The names that are listed for a segment are among those that its token mentions, and the same if
these are kept in order. -/
structure Accounts (segment : Segment) (names : List String) : Prop where
  mentions : Mentions segment.sketch names
  listed : segment.references.Subperm names
  kept : segment.sketch.KeepsOrder → segment.references = names
  keeps : names.Nodup → segment.references = names → segment.sketch.KeepsOrder

/-- The text of a conditional is made of clauses in one way. -/
theorem eq_of_conditionalText {name clause : List Char} {clauses others : List (List Char)}
    (areClauses : ∀ other ∈ clause :: clauses, IsClause 0 other)
    (areOthers : ∀ other ∈ others, IsClause 0 other)
    (same : conditionalText name (clause :: clauses) = conditionalText name others) :
    clause :: clauses = others := by
  have bodies := List.append_cancel_left
    (List.append_cancel_right (List.cons.inj same).2 : name ++ _ = name ++ _)
  cases others with
  | nil => cases bodies
  | cons other others =>
    obtain ⟨isClause, areClauses⟩ := List.forall_mem_cons.1 areClauses
    obtain ⟨isOther, areOthers⟩ := List.forall_mem_cons.1 areOthers
    rw [List.flatMap_cons, List.flatMap_cons] at bodies
    have inside := (List.cons.inj bodies).2
    obtain ⟨rfl, rfl⟩ := clauses_unique isClause areClauses isOther areOthers rfl inside
    rfl

theorem accounts_literal (content : String) : Accounts (.literal content) [] where
  mentions := .literal
  listed := List.Subperm.refl _
  kept _ := rfl
  keeps _ _ := trivial

theorem accounts_simple (name : String) : Accounts (.simple name) [name] where
  mentions := by
    have mentions : Mentions (.simple name.toList) [String.ofList name.toList] := .simple
    rwa [String.ofList_toList] at mentions
  listed := List.Subperm.refl _
  kept _ := rfl
  keeps _ _ := trivial

theorem accounts_ofClauses {name clause : List Char} {clauses : List (List Char)}
    (areClauses : ∀ other ∈ clause :: clauses, IsClause 0 other) :
    Accounts (.conditional (.ofClauses (String.ofList name)
        (String.ofList (conditionalText name (clause :: clauses))) (clause :: clauses)))
      (String.ofList name :: (clause :: clauses).flatMap mentionsIn) := by
  have sketched : sketch (.conditional (.ofClauses (String.ofList name)
      (String.ofList (conditionalText name (clause :: clauses))) (clause :: clauses))) =
        .conditional name (conditionalText name (clause :: clauses)) := by
    simp [sketch, Conditional.ofClauses]
  have references := references_ofClauses areClauses (String.ofList name)
    (String.ofList (conditionalText name (clause :: clauses)))
  constructor
  · have source : conditionalText name (clause :: clauses) =
        '{' :: (name ++ '|' :: (clause ++ clauses.flatMap ('|' :: ·)) ++ ['}']) := by
      simp [conditionalText]
    rw [sketched, source, ← mentionsIn_clauses]
    exact .conditional (Part.splits_split _)
  · rw [references]
    exact (List.subperm_cons _).2 (listedIn_subperm _)
  · rw [sketched, references]
    rintro ⟨others, same, areOthers, keep⟩
    cases eq_of_conditionalText areClauses areOthers same
    rw [listedIn_eq_of_keepOrder areClauses keep]
  · rw [sketched, references]
    intro distinct same
    exact ⟨clause :: clauses, rfl, areClauses, keepOrder_of_listedIn_eq areClauses
      (List.nodup_cons.1 distinct).2 (List.cons.inj same).2⟩

theorem exists_accounts {template : String} {segment : Segment} (member : segment ∈ read template) :
    ∃ names, Accounts segment names := by
  rcases exists_token?_of_mem member with ⟨content, rfl⟩ | ⟨text, rest, found⟩
  · exact ⟨[], accounts_literal content⟩
  · cases segment with
    | literal content => exact ⟨[], accounts_literal content⟩
    | simple name => exact ⟨[name], accounts_simple name⟩
    | conditional cond =>
      obtain ⟨name, clause, clauses, _, areClauses, rfl⟩ := exists_ofClauses found
      exact ⟨_, accounts_ofClauses areClauses⟩

/-! ## What is listed for a text -/

theorem exists_accounts_all {segments : List Segment}
    (accounts : ∀ segment ∈ segments, ∃ names, Accounts segment names) :
    ∃ mentions, List.Forall₂ Accounts segments mentions := by
  induction segments with
  | nil => exact ⟨[], .nil⟩
  | cons segment segments ih =>
    obtain ⟨⟨names, first⟩, others⟩ := List.forall_mem_cons.1 accounts
    obtain ⟨mentions, rest⟩ := ih others
    exact ⟨names :: mentions, .cons first rest⟩

section Accounts

variable {segments : List Segment} {mentions : List (List String)}
  (accounts : List.Forall₂ Accounts segments mentions)

include accounts

theorem mentions_of_accounts : List.Forall₂ Mentions (segments.map sketch) mentions :=
  List.forall₂_map_left_iff.2 (accounts.imp fun _ _ accounts => accounts.mentions)

theorem listed_of_accounts :
    (segments.flatMap Segment.references).Subperm mentions.flatten := by
  induction accounts with
  | nil => exact List.Subperm.refl _
  | cons first _ ih =>
    rw [List.flatMap_cons, List.flatten_cons]
    exact first.listed.append ih

theorem kept_of_accounts (keep : ∀ segment ∈ segments, segment.sketch.KeepsOrder) :
    segments.flatMap Segment.references = mentions.flatten := by
  induction accounts with
  | nil => rfl
  | cons first _ ih =>
    obtain ⟨keepFirst, keep⟩ := List.forall_mem_cons.1 keep
    rw [List.flatMap_cons, List.flatten_cons, first.kept keepFirst, ih keep]

theorem keeps_of_accounts (distinct : mentions.flatten.Nodup)
    (same : segments.flatMap Segment.references = mentions.flatten) :
    ∀ segment ∈ segments, segment.sketch.KeepsOrder := by
  induction accounts with
  | nil => exact List.forall_mem_nil _
  | cons first rest ih =>
    rw [List.flatMap_cons, List.flatten_cons] at same
    rw [List.flatten_cons] at distinct
    -- No part of what is listed is longer than what is mentioned, so that they divide alike.
    have short := first.listed.length_le
    have shorter := (listed_of_accounts rest).length_le
    have total := congrArg List.length same
    rw [List.length_append, List.length_append] at total
    obtain ⟨front, back⟩ := List.append_inj same (by omega)
    obtain ⟨distinctFirst, distinct, _⟩ := List.nodup_append.1 distinct
    exact List.forall_mem_cons.2 ⟨first.keeps distinctFirst front, ih distinct back⟩

end Accounts

end Segment

open Segment

namespace Template

/-- The names that a template lists are mentioned by its tokens. If every conditional keeps its
names in order they are all that are mentioned, in the order of their first mention, and of those
that no input has strict synthesis says so in this order. When no name is mentioned twice, only then
are the names listed as they are mentioned. -/
theorem listsFirsts_names (template : Template) :
    ∃ sketches mentions, Scanned template.text.toList sketches ∧
      List.Forall₂ Mentions sketches mentions ∧
      (∀ name ∈ Segment.names template.segments, name ∈ mentions.flatten) ∧
      ((∀ sketch ∈ sketches, sketch.KeepsOrder) →
        ListsFirsts mentions.flatten (Segment.names template.segments) ∧
        ∃ missing, ListsFirsts
            (mentions.flatten.filter fun name => (template.boundInput? name).isNone) missing ∧
          ∀ bindings, template.errors bindings true =
            template.inputErrors bindings ++ missing.map unresolvedError) ∧
      (mentions.flatten.Nodup →
        (Segment.names template.segments = mentions.flatten ↔
          ∀ sketch ∈ sketches, sketch.KeepsOrder)) := by
  have found : ∀ segment ∈ read template.text, ∃ names, Accounts segment names :=
    fun _ member => exists_accounts member
  obtain ⟨mentions, accounts⟩ := exists_accounts_all found
  have listed := listed_of_accounts accounts
  refine ⟨(read template.text).map sketch, mentions, scanned_iff_read.2 rfl,
    mentions_of_accounts accounts, fun name member => ?_, fun keep => ?_, fun distinct => ?_⟩
  · exact listed.subset (List.mem_eraseDups.1 member)
  · have kept := kept_of_accounts accounts (List.forall_mem_map.1 keep)
    have lists : ListsFirsts mentions.flatten (Segment.names template.segments) :=
      kept ▸ listsFirsts_eraseDups _
    exact ⟨lists, template.unresolvedNames, lists.filter _, fun _ => rfl⟩
  · obtain ⟨others, same, within⟩ := listed
    have single : Segment.names template.segments = (read template.text).flatMap references :=
      eraseDups_of_nodup (same.nodup_iff.1 (distinct.sublist within))
    rw [List.forall_mem_map, single]
    exact ⟨keeps_of_accounts accounts distinct, kept_of_accounts accounts⟩

/-- A clause without a case may come last. -/
theorem listsFirsts_names_bare_last :
    let template : Template :=
      { id := "", name := "", category := "", text := "\x7bx|v:\x7bb\x7d|\x7ba\x7d\x7d \x7ba\x7d" }
    (∀ token ∈ template.segments.map sketch, Sketch.KeepsOrder token) ∧
      Segment.names template.segments = ["x", "b", "a"] ∧
      ∃ mentions, ListsFirsts mentions (Segment.names template.segments) := by
  intro template
  have clauses : ∀ clause ∈ ["v:\x7bb\x7d", "\x7ba\x7d"].map String.toList, IsClause 0 clause := by
    decide +kernel
  have keep : KeepOrder (["v:\x7bb\x7d", "\x7ba\x7d"].map String.toList) := by
    have cased : ¬ IsBare "v:\x7bb\x7d".toList := by
      rw [isBare_iff (clauses _ (by simp))]
      decide +kernel
    exact List.pairwise_pair.2 fun bare => absurd bare.1 cased
  have found : template.segments.map sketch =
      [.conditional ['x'] (conditionalText ['x'] (["v:\x7bb\x7d", "\x7ba\x7d"].map String.toList)),
        .literal [' '], .simple ['a']] := by
    decide +kernel
  have keeps : ∀ token ∈ template.segments.map sketch, Sketch.KeepsOrder token := by
    rw [found]
    simp only [List.forall_mem_cons]
    exact ⟨⟨_, rfl, clauses, keep⟩, trivial, trivial, List.forall_mem_nil _⟩
  obtain ⟨sketches, mentions, scanned, _, _, kept, _⟩ := listsFirsts_names template
  cases scanned_iff_read.1 scanned
  exact ⟨keeps, by decide +kernel, _, (kept keeps).1⟩

/-- The names in a clause without a case are listed after those in a later clause with one. -/
theorem not_listsFirsts_bare_first :
    ∃ sketches mentions, Scanned "\x7bx|\x7ba\x7d|v:\x7bb\x7d\x7d".toList sketches ∧
      List.Forall₂ Mentions sketches mentions ∧ mentions.flatten = ["x", "a", "b"] ∧
      Segment.names (read "\x7bx|\x7ba\x7d|v:\x7bb\x7d\x7d") = ["x", "b", "a"] ∧
      ¬ ListsFirsts mentions.flatten
        (Segment.names (read "\x7bx|\x7ba\x7d|v:\x7bb\x7d\x7d")) := by
  have splits : Part.Splits "\x7ba\x7d|v:\x7bb\x7d".toList [.ref "a", .text "|v:", .ref "b"] := by
    have split : Part.split "\x7ba\x7d|v:\x7bb\x7d".toList = [.ref "a", .text "|v:", .ref "b"] := by
      decide +kernel
    exact split ▸ Part.splits_split _
  have listed : Segment.names (read "\x7bx|\x7ba\x7d|v:\x7bb\x7d\x7d") = ["x", "b", "a"] := by
    decide +kernel
  have found : (read "\x7bx|\x7ba\x7d|v:\x7bb\x7d\x7d").map sketch =
      [.conditional ['x'] ('{' :: (['x'] ++ '|' :: "\x7ba\x7d|v:\x7bb\x7d".toList ++ ['}']))] := by
    decide +kernel
  have mentions :
      [String.ofList ['x'] :: Part.references [.ref "a", .text "|v:", .ref "b"]].flatten =
        ["x", "a", "b"] := by
    decide +kernel
  refine ⟨_, _, scanned_iff_read.2 found, .cons (.conditional splits) .nil, mentions, listed, ?_⟩
  rw [listed, mentions]
  intro lists
  obtain ⟨_, ordered⟩ := List.pairwise_cons.1 lists.ordered
  obtain ⟨before, after, same, absent⟩ := List.pairwise_pair.1 ordered
  -- The last name is mentioned second, before every mention of the one listed before it.
  rcases before with _ | ⟨first, _ | ⟨second, before⟩⟩
  · simp at same
  · simp at same
  · simp only [List.cons_append, List.cons.injEq] at same
    simp [same.2.1] at absent

end Template

end CommandSynthesis
