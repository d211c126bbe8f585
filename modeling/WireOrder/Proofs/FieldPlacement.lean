import WireOrder.Placement

/-!
# How far a layout fits

A field at its place in a layout begins where the fields before it end.
Therefore a layout fits into a number of bytes exactly if each of its fields
does, and a layout that does not fit has one field at which it overruns.
-/

namespace WireOrder

theorem place_eq_append_cons {offset : Nat} {fields : List Field}
    {before after : List Span} {span : Span}
    (placed : place offset fields = before ++ span :: after) :
    fields =
        before.map Span.field ++ span.field :: after.map Span.field ∧
      place offset (before.map Span.field) = before ∧
      span.offset = offset + widthOf (before.map Span.field) := by
  induction before generalizing offset fields with
  | nil =>
      cases fields with
      | nil => simp [place] at placed
      | cons field fields =>
          simp only [place, List.nil_append, List.cons.injEq] at placed
          obtain ⟨rfl, rfl⟩ := placed
          simp [place, widthOf]
  | cons first before ih =>
      cases fields with
      | nil => simp [place] at placed
      | cons field fields =>
          simp only [place, List.cons_append, List.cons.injEq] at placed
          obtain ⟨rfl, placedLater⟩ := placed
          obtain ⟨fieldsEquality, placeEquality, offsetEquality⟩ :=
            ih placedLater
          refine ⟨?_, ?_, ?_⟩
          · simp [fieldsEquality]
          · simp [place, placeEquality]
          · simp [widthOf, offsetEquality, Nat.add_assoc]

theorem mem_place_iff {offset : Nat} {fields : List Field} {span : Span} :
    span ∈ place offset fields ↔
      ∃ before after, fields = before ++ span.field :: after ∧
        span.offset = offset + widthOf before := by
  constructor
  · intro member
    obtain ⟨before, after, placed⟩ := List.append_of_mem member
    obtain ⟨fieldsEquality, _, offsetEquality⟩ := place_eq_append_cons placed
    exact ⟨_, _, fieldsEquality, offsetEquality⟩
  · intro split
    obtain ⟨before, after, rfl, offsetEquality⟩ := split
    rw [place_append, place, ← offsetEquality]
    exact List.mem_append_right _ List.mem_cons_self

theorem forall_finish_le_iff {offset length : Nat} {fields : List Field}
    (begun : offset ≤ length) :
    (∀ span ∈ place offset fields, span.finish ≤ length) ↔
      offset + widthOf fields ≤ length := by
  induction fields generalizing offset with
  | nil => simpa [place, widthOf] using begun
  | cons field fields ih =>
      simp only [place, List.forall_mem_cons, Span.finish, widthOf]
      constructor
      · intro within
        have total := (ih within.1).mp within.2
        omega
      · intro total
        have first : offset + field.width ≤ length := by omega
        refine ⟨first, (ih first).mpr ?_⟩
        omega

/-- A layout either fits into a number of bytes or has a field that does not
although the fields before it do. -/
theorem fits_or_overruns (length : Nat) (fields : List Field) :
    widthOf fields ≤ length ∨
      ∃ before field after, fields = before ++ field :: after ∧
        widthOf before ≤ length ∧ length < widthOf before + field.width := by
  induction fields generalizing length with
  | nil => exact .inl (Nat.zero_le length)
  | cons field fields ih =>
      by_cases first : field.width ≤ length
      · rcases ih (length - field.width) with fits | ⟨before, overrun, after,
          rfl, room, short⟩
        · left
          simp only [widthOf]
          omega
        · right
          refine ⟨field :: before, overrun, after, rfl, ?_, ?_⟩
          · simp only [widthOf]
            omega
          · simp only [widthOf]
            omega
      · right
        refine ⟨[], field, fields, rfl, Nat.zero_le length, ?_⟩
        simp only [widthOf]
        omega

end WireOrder
