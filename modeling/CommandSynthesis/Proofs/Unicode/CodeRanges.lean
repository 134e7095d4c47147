import CommandSynthesis.Unicode.CodeRanges

set_option autoImplicit false

/-!
# Sets of code points

What the operations on ranges do to the sets that these stand for. A set is normal when its ranges
are in order and apart; between such ranges lie the code points that are in none of them.
-/

namespace CommandSynthesis.Unicode.CodeRanges

variable {ranges left right : CodeRanges} {range : Nat × Nat} {low high start code : Nat}

theorem contains_cons_iff : contains (range :: ranges) code = true ↔
    (range.1 ≤ code ∧ code ≤ range.2) ∨ ranges.contains code = true := by
  simp [contains]

theorem contains_append (left right : CodeRanges) (code : Nat) :
    (left ++ right).contains code = (left.contains code || right.contains code) :=
  List.any_append

/-- No range is empty. -/
def Proper (ranges : CodeRanges) : Prop :=
  ∀ range ∈ ranges, range.1 ≤ range.2

instance : Decidable ranges.Proper :=
  inferInstanceAs (Decidable (∀ range ∈ ranges, range.1 ≤ range.2))

theorem Proper.append (first : left.Proper) (second : right.Proper) :
    Proper (left ++ right) := by
  intro range member
  rcases List.mem_append.mp member with member | member
  · exact first range member
  · exact second range member

/-- The ranges are in the order of their first code points, and these are not below another. -/
structure Follows (low : Nat) (ranges : CodeRanges) : Prop where
  above : ∀ range ∈ ranges, low ≤ range.1
  ordered : ranges.Pairwise fun left right => left.1 ≤ right.1

theorem Follows.rest (follows : Follows low (range :: ranges)) : Follows low ranges :=
  ⟨fun other member => follows.above other (List.mem_cons_of_mem _ member),
    follows.ordered.of_cons⟩

theorem follows_rest (ordered : (range :: ranges).Pairwise fun left right => left.1 ≤ right.1) :
    Follows range.1 ranges :=
  ⟨(List.pairwise_cons.mp ordered).1, ordered.of_cons⟩

/-! ## Normal form -/

/-- What is in one of two ranges that meet or touch is in the range that joins them. -/
theorem contains_joinOn (follows : Follows low ranges) :
    (joinOn low high ranges).contains code = true ↔
      (low ≤ code ∧ code ≤ high) ∨ ranges.contains code = true := by
  induction ranges generalizing low high with
  | nil => exact contains_cons_iff
  | cons range ranges ih =>
    obtain ⟨first, last⟩ := range
    have above : low ≤ first := follows.above _ List.mem_cons_self
    unfold joinOn
    split
    · have joined : (low ≤ code ∧ code ≤ max high last) ↔
          (low ≤ code ∧ code ≤ high) ∨ (first ≤ code ∧ code ≤ last) := by omega
      rw [ih follows.rest, contains_cons_iff, joined, or_assoc]
    · rw [contains_cons_iff, ih (follows_rest follows.ordered), contains_cons_iff]

/-- The ranges are not empty, in order from a code point on, and apart from each other. -/
def Normal (start : Nat) : CodeRanges → Prop
  | [] => True
  | (first, last) :: rest => start ≤ first ∧ first ≤ last ∧ Normal (last + 1) rest

theorem normal_joinOn (reached : start ≤ low) (nonempty : low ≤ high) (follows : Follows low ranges)
    (proper : Proper ranges) : Normal start (joinOn low high ranges) := by
  induction ranges generalizing start low high with
  | nil => exact ⟨reached, nonempty, trivial⟩
  | cons range ranges ih =>
    obtain ⟨first, last⟩ := range
    obtain ⟨inhabited, proper⟩ := List.forall_mem_cons.mp proper
    unfold joinOn
    split
    · exact ih reached (Nat.le_trans nonempty (Nat.le_max_left _ _)) follows.rest proper
    · next apart =>
      exact ⟨reached, nonempty,
        ih (Nat.le_of_not_le apart) inhabited (follows_rest follows.ordered) proper⟩

/-- The ranges in the order of their first code points. -/
def sorted (ranges : CodeRanges) : CodeRanges :=
  ranges.mergeSort fun left right => left.1 ≤ right.1

theorem sorted_perm (ranges : CodeRanges) : ranges.sorted.Perm ranges :=
  List.mergeSort_perm _ _

theorem pairwise_sorted (ranges : CodeRanges) :
    ranges.sorted.Pairwise fun left right => left.1 ≤ right.1 := by
  have ordered : ranges.sorted.Pairwise fun left right => decide (left.1 ≤ right.1) = true :=
    List.pairwise_mergeSort (by simp only [decide_eq_true_eq]; omega)
      (by simp only [Bool.or_eq_true, decide_eq_true_eq]; omega) ranges
  simpa only [decide_eq_true_eq] using ordered

theorem contains_normalize (ranges : CodeRanges) (code : Nat) :
    ranges.normalize.contains code = ranges.contains code := by
  have same : ranges.sorted.contains code = ranges.contains code := ranges.sorted_perm.any_eq
  have ordered := ranges.pairwise_sorted
  unfold normalize
  rw [← same, ← sorted]
  cases listed : ranges.sorted with
  | nil => rfl
  | cons range rest =>
    rw [listed] at ordered
    refine Bool.eq_iff_iff.mpr ?_
    rw [contains_cons_iff]
    exact contains_joinOn (follows_rest ordered)

theorem normal_normalize (proper : Proper ranges) : Normal 0 ranges.normalize := by
  have ordered := ranges.pairwise_sorted
  have proper : Proper ranges.sorted :=
    fun range member => proper range (ranges.sorted_perm.mem_iff.mp member)
  unfold normalize
  rw [← sorted]
  cases listed : ranges.sorted with
  | nil => trivial
  | cons range rest =>
    rw [listed] at ordered proper
    obtain ⟨inhabited, proper⟩ := List.forall_mem_cons.mp proper
    exact normal_joinOn (Nat.zero_le _) inhabited (follows_rest ordered) proper

/-! ## Complement and difference -/

theorem le_of_contains (normal : Normal start ranges) (inside : ranges.contains code = true) :
    start ≤ code := by
  induction ranges generalizing start with
  | nil => cases inside
  | cons range ranges ih =>
    obtain ⟨first, last⟩ := range
    obtain ⟨reached, nonempty, normal⟩ := normal
    rcases contains_cons_iff.mp inside with ⟨above, -⟩ | inside
    · exact Nat.le_trans reached above
    · have behind : last + 1 ≤ code := ih normal inside
      omega

theorem contains_gaps (normal : Normal start ranges) (valid : code ≤ maxCode) :
    (gaps start ranges).contains code = true ↔ start ≤ code ∧ ¬ contains ranges code = true := by
  induction ranges generalizing start with
  | nil =>
    unfold gaps
    split
    · simp [contains, valid]
    · have below : code < start := by omega
      simp [contains, below]
  | cons range ranges ih =>
    obtain ⟨first, last⟩ := range
    obtain ⟨reached, nonempty, normal⟩ := normal
    have behind : contains ranges code = true → last + 1 ≤ code := le_of_contains normal
    -- Before the first range is a gap, or not; behind it go the other gaps.
    unfold gaps
    split
    · rw [contains_cons_iff, contains_cons_iff, ih normal]
      by_cases inside : contains ranges code = true
      · have above := behind inside
        simp only [inside, not_true_eq_false, and_false, or_false, or_true, iff_false]
        omega
      · simp only [inside, Bool.false_eq_true, not_false_eq_true, and_true, or_false]
        omega
    · rw [contains_cons_iff, ih normal]
      by_cases inside : contains ranges code = true
      · simp only [inside, not_true_eq_false, and_false, or_true]
      · simp only [inside, Bool.false_eq_true, not_false_eq_true, and_true, or_false]
        omega

theorem proper_gaps (start : Nat) (ranges : CodeRanges) : Proper (gaps start ranges) := by
  induction ranges generalizing start with
  | nil =>
    unfold gaps
    split
    · exact List.forall_mem_singleton.mpr ‹_›
    · exact List.forall_mem_nil _
  | cons range ranges ih =>
    unfold gaps
    split
    · exact List.forall_mem_cons.mpr ⟨Nat.le_sub_one_of_lt ‹_›, ih _⟩
    · exact ih _

theorem contains_complement (proper : Proper ranges) (valid : code ≤ maxCode) :
    ranges.complement.contains code = !ranges.contains code := by
  have gap := contains_gaps (normal_normalize proper) valid
  rw [contains_normalize] at gap
  rw [complement, Bool.eq_iff_iff, gap]
  simp

/-- In a difference are the code points of the one set that are not in the other. -/
theorem contains_difference (proper : Proper left) (others : Proper right)
    (valid : code ≤ maxCode) :
    (left.difference right).contains code = (left.contains code && !right.contains code) := by
  have both : Proper (left.complement ++ right) := (proper_gaps _ _).append others
  rw [difference, contains_complement both valid, contains_append,
    contains_complement proper valid, Bool.not_or, Bool.not_not]

end CommandSynthesis.Unicode.CodeRanges
