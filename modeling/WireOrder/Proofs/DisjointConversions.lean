import Mathlib.GroupTheory.Perm.Support
import WireOrder.Proofs.ByteMovement
import WireOrder.Proofs.WalkSteps

/-!
# Conversions of different parts of a buffer

A conversion moves bytes only inside the fields of two bytes or more that it
crosses before it ends.  Two conversions that have no such position in common
can be done in either order: the permutations of the bytes that they amount to
are disjoint and therefore commute, and how each of them ends is settled by the
length of the buffer, which neither of them changes.
-/

namespace WireOrder

/-- The position lies in a field that takes two bytes or more. -/
def InWideField (spans : List Span) (position : Nat) : Prop :=
  ∃ span ∈ spans, span.field.hasOneOrder = false ∧ span.Covers position

/-- The position lies in a field of two bytes or more that the conversion
crosses before it goes through or fails. -/
def Moves (direction : Direction) (format : String) (buffer : Bytes)
    (position : Nat) : Prop :=
  ∃ stage,
    Stage.Reached direction (Tokenizer.ofString format).items buffer stage ∧
      InWideField stage.crossed position

theorem moves_iff {direction : Direction} {format : String}
    {buffer : Bytes} {position : Nat} :
    Moves direction format buffer position ↔
      InWideField
        (convertedSpans (Tokenizer.ofString format).items buffer.length)
        position := by
  constructor
  · intro moves
    obtain ⟨stage, reached, span, member, covers⟩ := moves
    have converted := (mem_convertedSpans_iff_crossed direction).mpr
      ⟨stage, reached, member⟩
    exact ⟨span, converted, covers⟩
  · intro wide
    obtain ⟨span, converted, covers⟩ := wide
    obtain ⟨stage, reached, member⟩ :=
      (mem_convertedSpans_iff_crossed direction).mp converted
    exact ⟨stage, reached, span, member, covers⟩

/-! ## Fields that have no moved position in common -/

section Apart

variable {firstFields secondFields : List Field}

theorem disjoint_mirrorPerm {length : Nat}
    (firstFits : widthOf firstFields ≤ length)
    (secondFits : widthOf secondFields ≤ length)
    (apart : ∀ position, InWideField (place 0 firstFields) position →
      ¬ InWideField (place 0 secondFields) position) :
    (mirrorPerm firstFields length firstFits).Disjoint
      (mirrorPerm secondFields length secondFits) := by
  have fixed : ∀ fields (index : Nat),
      ¬ InWideField (place 0 fields) index → mirror fields index = index := by
    intro fields index narrow
    apply mirror_of_not_covered
    intro span member wide covers
    exact narrow ⟨span, member, wide, covers⟩
  intro index
  by_cases wide : InWideField (place 0 firstFields) index
  · right
    exact Fin.ext (fixed secondFields index (apart index wide))
  · left
    exact Fin.ext (fixed firstFields index wide)

theorem mirror_comm
    (apart : ∀ position, InWideField (place 0 firstFields) position →
      ¬ InWideField (place 0 secondFields) position) (index : Nat) :
    mirror firstFields (mirror secondFields index) =
      mirror secondFields (mirror firstFields index) := by
  -- Any length will do that has room for both layouts and the index.
  obtain ⟨length, firstFits, secondFits, inside⟩ : ∃ length,
      widthOf firstFields ≤ length ∧ widthOf secondFields ≤ length ∧
        index < length :=
    ⟨widthOf firstFields + widthOf secondFields + index + 1, by omega,
      by omega, by omega⟩
  have disjoint := disjoint_mirrorPerm firstFits secondFits apart
  have commute := Equiv.congr_fun disjoint.commute.eq ⟨index, inside⟩
  exact congrArg Fin.val commute

theorem Direction.recodeFields_comm (first second : Direction)
    {bytes : Bytes} (firstFits : widthOf firstFields ≤ bytes.length)
    (secondFits : widthOf secondFields ≤ bytes.length)
    (apart : ∀ position, InWideField (place 0 firstFields) position →
      ¬ InWideField (place 0 secondFields) position) :
    second.recodeFields secondFields (first.recodeFields firstFields bytes) =
      first.recodeFields firstFields
        (second.recodeFields secondFields bytes) := by
  have firstFitsLater : widthOf firstFields ≤
      (second.recodeFields secondFields bytes).length := by simpa
  have secondFitsLater : widthOf secondFields ≤
      (first.recodeFields firstFields bytes).length := by simpa
  apply List.ext_getElem?
  intro index
  calc
    (second.recodeFields secondFields
        (first.recodeFields firstFields bytes))[index]? =
        bytes[mirror firstFields (mirror secondFields index)]? := by
      rw [second.getElem?_recodeFields secondFitsLater,
        first.getElem?_recodeFields firstFits]
    _ = bytes[mirror secondFields (mirror firstFields index)]? := by
      rw [mirror_comm apart]
    _ = (first.recodeFields firstFields
        (second.recodeFields secondFields bytes))[index]? := by
      rw [first.getElem?_recodeFields firstFitsLater,
        second.getElem?_recodeFields secondFits]

end Apart

/-- Two conversions of the same buffer, under any formats and in any
directions, that move no position in common leave the same bytes in either
order.  Each of them ends in either order as it does on its own, also where it
fails. -/
theorem disjoint_conversions_commute
    (first second : String) (firstDirection secondDirection : Direction)
    (buffer : Bytes)
    (apart : ∀ position, Moves firstDirection first buffer position →
      ¬ Moves secondDirection second buffer position) :
    (convert secondDirection second
          (convert firstDirection first buffer).buffer).buffer =
        (convert firstDirection first
          (convert secondDirection second buffer).buffer).buffer ∧
      (convert firstDirection first
          (convert secondDirection second buffer).buffer).fault =
        (convert firstDirection first buffer).fault ∧
      (convert secondDirection second
          (convert firstDirection first buffer).buffer).fault =
        (convert secondDirection second buffer).fault := by
  obtain ⟨firstPlaced, firstFits⟩ :=
    convertedSpans_eq (Tokenizer.ofString first).items buffer.length
  obtain ⟨secondPlaced, secondFits⟩ :=
    convertedSpans_eq (Tokenizer.ofString second).items buffer.length
  simp only [moves_iff, firstPlaced, secondPlaced] at apart
  -- Only the length of its buffer decides how a conversion ends.
  simp only [convert_eq, Direction.length_recodeFields, and_true]
  exact firstDirection.recodeFields_comm secondDirection firstFits secondFits
    apart

/-- The first format swaps a short integer and is malformed behind it.  The
second one skips these two bytes, swaps the integer behind them, and overruns
the buffer. -/
theorem disjoint_conversions_commute_before_faults :
    (∀ position,
      Moves .hostToNetwork "sx" [1, 2, 3, 4, 5, 6, 7] position →
        ¬ Moves .networkToHost "2bil" [1, 2, 3, 4, 5, 6, 7] position) ∧
      (convert .networkToHost "2bil"
          (convert .hostToNetwork "sx" [1, 2, 3, 4, 5, 6, 7]).buffer).buffer =
        (convert .hostToNetwork "sx" [1, 2, 6, 5, 4, 3, 7]).buffer ∧
      (convert .hostToNetwork "sx" [1, 2, 6, 5, 4, 3, 7]).fault =
        some (.malformedFormat 1 (.unknownTypeCode 'x')) ∧
      (convert .networkToHost "2bil" [2, 1, 3, 4, 5, 6, 7]).fault =
        some (.bufferTooShort 6 8 7) := by
  have firstSpans : convertedSpans (Tokenizer.ofString "sx").items 7 =
      [⟨0, .short⟩] := by decide +kernel
  have secondSpans : convertedSpans (Tokenizer.ofString "2bil").items 7 =
      [⟨0, .byte⟩, ⟨1, .byte⟩, ⟨2, .int⟩] := by decide +kernel
  have firstEnd : convert .hostToNetwork "sx" [1, 2, 3, 4, 5, 6, 7] =
      ⟨[2, 1, 3, 4, 5, 6, 7],
        some (.malformedFormat 1 (.unknownTypeCode 'x'))⟩ := by
    decide +kernel
  have secondEnd : convert .networkToHost "2bil" [1, 2, 3, 4, 5, 6, 7] =
      ⟨[1, 2, 6, 5, 4, 3, 7], some (.bufferTooShort 6 8 7)⟩ := by
    decide +kernel
  have apart : ∀ position,
      Moves .hostToNetwork "sx" [1, 2, 3, 4, 5, 6, 7] position →
        ¬ Moves .networkToHost "2bil" [1, 2, 3, 4, 5, 6, 7] position := by
    intro position moves otherMoves
    have wide := moves_iff.mp moves
    have otherWide := moves_iff.mp otherMoves
    simp only [List.length_cons, List.length_nil, firstSpans, secondSpans]
      at wide otherWide
    obtain ⟨span, member, _, covers⟩ := wide
    obtain ⟨other, otherMember, several, otherCovers⟩ := otherWide
    cases List.mem_singleton.mp member
    have behind : 2 ≤ other.offset := by
      simp only [List.mem_cons, List.not_mem_nil, or_false] at otherMember
      rcases otherMember with rfl | rfl | rfl
      · cases several
      · cases several
      · decide
    exact Nat.not_lt_of_le (Nat.le_trans behind otherCovers.1) covers.2
  have commute := disjoint_conversions_commute "sx" "2bil" .hostToNetwork
    .networkToHost [1, 2, 3, 4, 5, 6, 7] apart
  rw [firstEnd, secondEnd] at commute
  rw [firstEnd]
  exact ⟨apart, commute⟩

end WireOrder
