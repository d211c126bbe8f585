/-!
# Sets of characters as ranges of code points

A property of characters is tabulated as the ranges of code points that have
it, in ascending order and apart from one another.  The order lets a look-up
stop at the first range that begins above the character.  The tables follow
Unicode 17.0.
-/

namespace WireOrder.Text

/-- Whether ranges, each given by its first and last member, are nonempty,
ascending and apart, all of them from `floor` on. -/
def ascendFrom (floor : Nat) : List (Nat × Nat) → Bool
  | [] => true
  | (first, last) :: ranges =>
      decide (floor ≤ first) && decide (first ≤ last) &&
        ascendFrom (last + 2) ranges

/-- Look a code point up in ascending ranges. -/
def lookUp (point : Nat) : List (Nat × Nat) → Bool
  | [] => false
  | (first, last) :: ranges =>
      if point < first then
        false
      else
        decide (point ≤ last) || lookUp point ranges

theorem floor_le_of_ascendFrom {floor : Nat} {ranges : List (Nat × Nat)}
    (ascending : ascendFrom floor ranges) :
    ∀ range ∈ ranges, floor ≤ range.1 := by
  induction ranges generalizing floor with
  | nil => simp
  | cons head tail ih =>
      obtain ⟨first, last⟩ := head
      simp only [ascendFrom, Bool.and_eq_true, decide_eq_true_eq] at ascending
      intro range member
      rcases List.mem_cons.mp member with rfl | member
      · exact ascending.1.1
      · have above := ih ascending.2 range member
        omega

/-- Under ascending ranges the early stop loses nothing. -/
theorem lookUp_iff {floor point : Nat} {ranges : List (Nat × Nat)}
    (ascending : ascendFrom floor ranges) :
    lookUp point ranges ↔
      ∃ range ∈ ranges, range.1 ≤ point ∧ point ≤ range.2 := by
  induction ranges generalizing floor with
  | nil => simp [lookUp]
  | cons head tail ih =>
      obtain ⟨first, last⟩ := head
      simp only [ascendFrom, Bool.and_eq_true, decide_eq_true_eq] at ascending
      have later := ih ascending.2
      by_cases below : point < first
      · simp only [lookUp, below, if_true, Bool.false_eq_true, false_iff]
        rintro ⟨range, member, starts, _⟩
        rcases List.mem_cons.mp member with rfl | member
        · omega
        · have above := floor_le_of_ascendFrom ascending.2 range member
          omega
      · simp only [lookUp, below, if_false, Bool.or_eq_true,
          decide_eq_true_eq, later, List.mem_cons]
        constructor
        · rintro (within | ⟨range, member, bounds⟩)
          · exact ⟨(first, last), Or.inl rfl, by omega, within⟩
          · exact ⟨range, Or.inr member, bounds⟩
        · rintro ⟨range, rfl | member, bounds⟩
          · exact Or.inl bounds.2
          · exact Or.inr ⟨range, member, bounds⟩

/-- A set of code points. -/
structure CodeRanges where
  /-- The ranges, each by its first and last member. -/
  ranges : List (Nat × Nat)
  ascending : ascendFrom 0 ranges

namespace CodeRanges

/-- A code point belongs to the set if it lies in one of the ranges. -/
instance : Membership Nat CodeRanges where
  mem codes point :=
    ∃ range ∈ codes.ranges, range.1 ≤ point ∧ point ≤ range.2

instance (point : Nat) (codes : CodeRanges) : Decidable (point ∈ codes) :=
  decidable_of_iff (lookUp point codes.ranges) (lookUp_iff codes.ascending)

end CodeRanges

end WireOrder.Text
