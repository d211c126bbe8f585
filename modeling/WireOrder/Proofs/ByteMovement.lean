import Mathlib.Logic.Equiv.Basic
import WireOrder.Proofs.ConversionCourse

/-!
# Where the bytes of a conversion come from

A conversion reads and writes integers, but all it does to a buffer is to turn
the bytes of each converted field around.  Every byte afterwards is one of the
bytes before, and its place is settled by the format and the length of the
buffer.  `mirror` says which place that is, and is its own inverse.
-/

namespace WireOrder

/-- The index that takes the place of the given one when each of the fields,
laid out from the beginning, is turned around. -/
def mirror : List Field → Nat → Nat
  | [], index => index
  | field :: fields, index =>
      if index < field.width then
        field.width - 1 - index
      else
        field.width + mirror fields (index - field.width)

section Mirror

variable {fields : List Field} {index : Nat}

theorem mirror_of_widthOf_le (beyond : widthOf fields ≤ index) :
    mirror fields index = index := by
  induction fields generalizing index with
  | nil => rfl
  | cons field fields ih =>
      simp only [widthOf] at beyond
      have behind : ¬ index < field.width := by omega
      rw [mirror, if_neg behind, ih (by omega)]
      omega

theorem mirror_lt {length : Nat} (fits : widthOf fields ≤ length)
    (inside : index < length) : mirror fields index < length := by
  induction fields generalizing index length with
  | nil => exact inside
  | cons field fields ih =>
      simp only [widthOf] at fits
      rw [mirror]
      by_cases first : index < field.width
      · rw [if_pos first]
        omega
      · rw [if_neg first]
        have later := @ih (index - field.width) (length - field.width)
          (by omega) (by omega)
        omega

theorem mirror_mirror (fields : List Field) (index : Nat) :
    mirror fields (mirror fields index) = index := by
  induction fields generalizing index with
  | nil => rfl
  | cons field fields ih =>
      by_cases first : index < field.width
      · have turned : field.width - 1 - index < field.width := by omega
        rw [mirror, mirror, if_pos first, if_pos turned]
        omega
      · have behind : ¬ field.width + mirror fields (index - field.width) <
            field.width := by omega
        rw [mirror, mirror, if_neg first, if_neg behind,
          Nat.add_sub_cancel_left, ih]
        omega

/-- Inside a field the two places are as far from its two ends. -/
theorem mirror_of_covers {offset : Nat} {span : Span}
    (placed : span ∈ place offset fields)
    (covered : span.Covers (offset + index)) :
    span.Covers (offset + mirror fields index) ∧
      (offset + mirror fields index) + (offset + index) + 1 =
        span.offset + span.finish := by
  induction fields generalizing offset index with
  | nil => cases placed
  | cons field fields ih =>
      rw [mirror]
      rcases List.mem_cons.mp placed with here | later
      · cases here
        simp only [Span.Covers, Span.finish] at covered ⊢
        rw [if_pos (by omega)]
        omega
      · have start : offset + field.width ≤ span.offset := by
          obtain ⟨before, _, _, offsetEquality⟩ := mem_place_iff.mp later
          omega
        have behind : ¬ index < field.width := by
          have lower := covered.1
          omega
        have regrouped : offset + field.width + (index - field.width) =
            offset + index := by omega
        rw [← regrouped] at covered
        have moved := ih later covered
        rw [if_neg behind, ← regrouped]
        rw [Nat.add_assoc offset field.width (mirror fields _)] at moved
        exact moved

/-- The permutation of the indices of a buffer that turns fields around. -/
def mirrorPerm (fields : List Field) (length : Nat)
    (fits : widthOf fields ≤ length) : Equiv.Perm (Fin length) :=
  Function.Involutive.toPerm
    (fun index => ⟨mirror fields index, mirror_lt fits index.isLt⟩)
    fun index => Fin.ext (mirror_mirror fields index)

end Mirror

namespace Direction

theorem getElem?_recodeFields (direction : Direction) {fields : List Field}
    {bytes : Bytes} (fits : widthOf fields ≤ bytes.length) (index : Nat) :
    (direction.recodeFields fields bytes)[index]? =
      bytes[mirror fields index]? := by
  induction fields generalizing bytes index with
  | nil => rfl
  | cons field fields ih =>
      simp only [widthOf] at fits
      have chunkLength : (bytes.take field.width).length = field.width := by
        rw [List.length_take]
        omega
      have laterFits : widthOf fields ≤ (bytes.drop field.width).length := by
        rw [List.length_drop]
        omega
      rw [recodeFields, recode_eq_reverse, mirror]
      by_cases first : index < field.width
      · have turned : field.width - 1 - index < field.width := by omega
        rw [if_pos first, List.getElem?_append_left, List.getElem?_reverse,
          chunkLength, List.getElem?_take_of_lt turned]
        · rwa [chunkLength]
        · rwa [List.length_reverse, chunkLength]
      · rw [if_neg first, List.getElem?_append_right,
          List.length_reverse, chunkLength, ih laterFits, List.getElem?_drop]
        rw [List.length_reverse, chunkLength]
        exact Nat.le_of_not_lt first

theorem recodeFields_map (direction : Direction) (function : UInt8 → UInt8)
    (fields : List Field) (bytes : Bytes) :
    direction.recodeFields fields (bytes.map function) =
      (direction.recodeFields fields bytes).map function := by
  induction fields generalizing bytes with
  | nil => rfl
  | cons field fields ih =>
      simp only [recodeFields, recode_eq_reverse, List.map_append,
        List.map_reverse, List.map_take, ← List.map_drop, ih]

theorem recodeFields_perm (direction : Direction) (fields : List Field)
    (bytes : Bytes) : (direction.recodeFields fields bytes).Perm bytes := by
  induction fields generalizing bytes with
  | nil => exact .refl bytes
  | cons field fields ih =>
      have turned :
          (direction.recode (bytes.take field.width)).Perm
            (bytes.take field.width) := by
        rw [recode_eq_reverse]
        exact List.reverse_perm _
      have moved := turned.append (ih (bytes.drop field.width))
      rwa [List.take_append_drop] at moved

theorem recodeFields_eq_of_direction (first second : Direction)
    (fields : List Field) (bytes : Bytes) :
    first.recodeFields fields bytes = second.recodeFields fields bytes := by
  induction fields generalizing bytes with
  | nil => rfl
  | cons field fields ih =>
      rw [recodeFields, recodeFields, recode_eq_reverse, recode_eq_reverse,
        ih]

end Direction

theorem mirror_of_not_covered {fields : List Field} {index : Nat}
    (uncovered : ∀ span ∈ place 0 fields, span.field.hasOneOrder = false →
      ¬ span.Covers index) :
    mirror fields index = index := by
  by_cases inside : index < widthOf fields
  · have covered : 0 ≤ index ∧ index < 0 + widthOf fields := by omega
    obtain ⟨span, member, covers⟩ := exists_covers_place_iff.mpr covered
    have single : span.field = .byte := by
      cases kind : span.field with
      | byte => rfl
      | short | int | long =>
          exact absurd covers (uncovered span member (by rw [kind]; rfl))
    have place : span.Covers (0 + index) := by rwa [Nat.zero_add]
    obtain ⟨_, mirrored⟩ := mirror_of_covers member place
    simp only [Span.Covers, Span.finish, single, Field.width]
      at covers mirrored
    omega
  · exact mirror_of_widthOf_le (Nat.le_of_not_lt inside)

/-- For a format and a length there are one outcome and one permutation of the
indices, whatever the bytes and the direction.  The permutation turns each
converted field around in its own place and moves no other byte.  Therefore a
conversion commutes with every map of the bytes, neither loses nor doubles a
byte, and is the same in both directions. -/
theorem conversion_permutes_bytes (format : String) :
    (∀ length, ∃ (ended : Option Fault) (origin : Equiv.Perm (Fin length)),
      (∀ direction (buffer : Bytes), buffer.length = length →
        (convert direction format buffer).fault = ended ∧
          (convert direction format buffer).buffer.length = length ∧
          ∀ index : Fin length,
            (convert direction format buffer).buffer[index.val]? =
              buffer[(origin index).val]?) ∧
      (∀ span ∈ convertedSpans (Tokenizer.ofString format).items length,
        ∀ index : Fin length, span.Covers index.val →
          span.Covers (origin index).val ∧
            (origin index).val + index.val + 1 =
              span.offset + span.finish) ∧
      ∀ index : Fin length,
        (∀ span ∈ convertedSpans (Tokenizer.ofString format).items length,
          span.field.hasOneOrder = false → ¬ span.Covers index.val) →
        origin index = index) ∧
    (∀ function direction buffer,
      convert direction format (buffer.map function) =
        ⟨(convert direction format buffer).buffer.map function,
          (convert direction format buffer).fault⟩) ∧
    (∀ direction buffer,
      (convert direction format buffer).buffer.Perm buffer) ∧
    ∀ buffer, convert .hostToNetwork format buffer =
      convert .networkToHost format buffer := by
  refine ⟨?_, ?_, ?_, ?_⟩
  · intro length
    obtain ⟨placed, fits⟩ :=
      convertedSpans_eq (Tokenizer.ofString format).items length
    refine ⟨ending (Tokenizer.ofString format).items length,
      mirrorPerm _ length fits, ?_, ?_, ?_⟩
    · intro direction buffer sameLength
      subst sameLength
      rw [convert_eq]
      refine ⟨rfl, direction.length_recodeFields _ buffer, ?_⟩
      intro index
      exact direction.getElem?_recodeFields fits index
    · intro span member index covers
      rw [placed] at member
      have covered : span.Covers (0 + index.val) := by rwa [Nat.zero_add]
      have mirrored := mirror_of_covers member covered
      rwa [Nat.zero_add, Nat.zero_add] at mirrored
    · intro index uncovered
      rw [placed] at uncovered
      exact Fin.ext (mirror_of_not_covered uncovered)
  · intro function direction buffer
    rw [convert_eq, convert_eq, List.length_map,
      direction.recodeFields_map function]
  · intro direction buffer
    rw [convert_eq]
    exact direction.recodeFields_perm _ buffer
  · intro buffer
    rw [convert_eq, convert_eq,
      Direction.recodeFields_eq_of_direction .hostToNetwork .networkToHost]

/-- Under this format seven bytes hold a short and an integer, whose bytes are
turned around, and the first byte of an integer that does not fit. -/
theorem conversion_permutes_bytes_before_overrun :
    ∃ origin : Equiv.Perm (Fin 7),
      (∀ direction (buffer : Bytes), buffer.length = 7 →
        (convert direction "s2ix" buffer).fault =
            some (.bufferTooShort 6 4 7) ∧
          ∀ index : Fin 7,
            (convert direction "s2ix" buffer).buffer[index.val]? =
              buffer[(origin index).val]?) ∧
      (origin 0).val = 1 ∧ (origin 3).val = 4 ∧ origin 6 = 6 := by
  obtain ⟨moves, _⟩ := conversion_permutes_bytes "s2ix"
  obtain ⟨ended, origin, moved, mirrored, fixed⟩ := moves 7
  have spans : convertedSpans (Tokenizer.ofString "s2ix").items 7 =
      [⟨0, .short⟩, ⟨2, .int⟩] := by decide +kernel
  have overrun : ended = some (.bufferTooShort 6 4 7) := by
    rw [← (moved .hostToNetwork [1, 2, 3, 4, 5, 6, 7] rfl).1]
    decide +kernel
  rw [spans] at mirrored fixed
  refine ⟨origin, ?_, ?_, ?_, ?_⟩
  · intro direction buffer sameLength
    obtain ⟨faulted, _, places⟩ := moved direction buffer sameLength
    exact ⟨faulted.trans overrun, places⟩
  · have turned : (origin 0).val + 0 + 1 = 0 + 2 :=
      (mirrored ⟨0, .short⟩ (by decide) 0 ⟨by decide, by decide⟩).2
    omega
  · have turned : (origin 3).val + 3 + 1 = 2 + 6 :=
      (mirrored ⟨2, .int⟩ (by decide) 3 ⟨by decide, by decide⟩).2
    omega
  · apply fixed
    intro span member _ covers
    have beyond : span.finish ≤ 6 := by
      rcases List.mem_cons.mp member with rfl | later
      · decide
      · rw [List.mem_singleton.mp later]
        decide
    exact Nat.not_le_of_lt covers.2 beyond

end WireOrder
