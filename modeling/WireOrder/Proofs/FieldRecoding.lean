import WireOrder.Direction
import WireOrder.Proofs.FieldPlacement

/-!
# Recoding the fields at the front of a buffer

`recodeFields` is what a conversion does to a buffer once it is settled which
fields it reaches: each field is recoded at its place, and the bytes beyond
are left alone.  `Converted` says the same by the integers that the fields
hold, without saying how the bytes are rearranged.
-/

namespace WireOrder

namespace Direction

/-- Recode the given fields, laid out from the front of a buffer. -/
def recodeFields (direction : Direction) : List Field → Bytes → Bytes
  | [], bytes => bytes
  | field :: fields, bytes =>
      direction.recode (bytes.take field.width) ++
        direction.recodeFields fields (bytes.drop field.width)

/-- The bytes of a field hold the same integer afterwards as before, read in
the byte order of either end. -/
def KeepsInteger (direction : Direction) (before after : Bytes) : Prop :=
  match direction with
  | hostToNetwork =>
      Endianness.bigEndian.read after = Endianness.littleEndian.read before
  | networkToHost =>
      Endianness.littleEndian.read after = Endianness.bigEndian.read before

theorem keepsInteger_recode (direction : Direction) (chunk : Bytes) :
    direction.KeepsInteger chunk (direction.recode chunk) := by
  cases direction with
  | hostToNetwork => exact hostToNetwork.read_recode chunk
  | networkToHost => exact networkToHost.read_recode chunk

@[simp] theorem length_recodeFields
    (direction : Direction) (fields : List Field) (bytes : Bytes) :
    (direction.recodeFields fields bytes).length = bytes.length := by
  induction fields generalizing bytes with
  | nil => rfl
  | cons field fields ih =>
      simp only [recodeFields, List.length_append, length_recode,
        List.length_take, ih, List.length_drop]
      omega

theorem recodeFields_singleton (direction : Direction) {field : Field}
    {chunk : Bytes} (chunkLength : chunk.length = field.width) :
    direction.recodeFields [field] chunk = direction.recode chunk := by
  rw [recodeFields, recodeFields, ← chunkLength, List.take_length,
    List.drop_length, List.append_nil]

theorem recodeFields_append
    {direction : Direction} {first second : List Field} {front rest : Bytes}
    (frontLength : front.length = widthOf first) :
    direction.recodeFields (first ++ second) (front ++ rest) =
      direction.recodeFields first front ++
        direction.recodeFields second rest := by
  induction first generalizing front with
  | nil =>
      have emptyFront : front = [] := List.eq_nil_of_length_eq_zero frontLength
      simp [emptyFront, recodeFields]
  | cons field first ih =>
      simp only [widthOf] at frontLength
      have room : field.width ≤ front.length := by omega
      have tailLength : (front.drop field.width).length = widthOf first := by
        rw [List.length_drop]
        omega
      simp only [List.cons_append, recodeFields]
      rw [List.take_append_of_le_length room,
        List.drop_append_of_le_length room, ih tailLength, List.append_assoc]

theorem recodeFields_append_of_fits
    (direction : Direction) {first : List Field} (second : List Field)
    {bytes : Bytes} (fits : widthOf first ≤ bytes.length) :
    direction.recodeFields (first ++ second) bytes =
      direction.recodeFields first (bytes.take (widthOf first)) ++
        direction.recodeFields second (bytes.drop (widthOf first)) := by
  have frontLength : (bytes.take (widthOf first)).length = widthOf first := by
    rw [List.length_take]
    omega
  calc
    direction.recodeFields (first ++ second) bytes =
        direction.recodeFields (first ++ second)
          (bytes.take (widthOf first) ++ bytes.drop (widthOf first)) := by
      rw [List.take_append_drop]
    _ = direction.recodeFields first (bytes.take (widthOf first)) ++
        direction.recodeFields second (bytes.drop (widthOf first)) :=
      recodeFields_append frontLength

theorem recodeFields_of_fits
    (direction : Direction) {fields : List Field} {bytes : Bytes}
    (fits : widthOf fields ≤ bytes.length) :
    direction.recodeFields fields bytes =
      direction.recodeFields fields (bytes.take (widthOf fields)) ++
        bytes.drop (widthOf fields) := by
  have alone := direction.recodeFields_append_of_fits [] fits
  rwa [List.append_nil] at alone

theorem recodeFields_append_right
    (direction : Direction) {fields : List Field} {bytes : Bytes}
    (fits : widthOf fields ≤ bytes.length) (extra : Bytes) :
    direction.recodeFields fields (bytes ++ extra) =
      direction.recodeFields fields bytes ++ extra := by
  have fitsLonger : widthOf fields ≤ (bytes ++ extra).length := by
    rw [List.length_append]
    exact Nat.le_add_right_of_le fits
  calc
    direction.recodeFields fields (bytes ++ extra) =
        direction.recodeFields fields (bytes.take (widthOf fields)) ++
          (bytes.drop (widthOf fields) ++ extra) := by
      rw [direction.recodeFields_of_fits fitsLonger,
        List.take_append_of_le_length fits,
        List.drop_append_of_le_length fits]
    _ = direction.recodeFields fields bytes ++ extra := by
      rw [← List.append_assoc, ← direction.recodeFields_of_fits fits]

theorem take_recodeFields_append
    (direction : Direction) {first : List Field} {bytes : Bytes}
    (fits : widthOf first ≤ bytes.length) (second : List Field) :
    (direction.recodeFields (first ++ second) bytes).take (widthOf first) =
      direction.recodeFields first (bytes.take (widthOf first)) := by
  have frontLength : (direction.recodeFields first
      (bytes.take (widthOf first))).length = widthOf first := by
    rw [length_recodeFields, List.length_take]
    exact Nat.min_eq_left fits
  rw [direction.recodeFields_append_of_fits second fits]
  exact List.take_left' frontLength

theorem recodeFields_reverse_recodeFields
    (direction : Direction) {fields : List Field} {bytes : Bytes}
    (fits : widthOf fields ≤ bytes.length) :
    direction.reverse.recodeFields fields
      (direction.recodeFields fields bytes) = bytes := by
  induction fields generalizing bytes with
  | nil => rfl
  | cons field fields ih =>
      simp only [widthOf] at fits
      have chunkLength :
          (direction.recode (bytes.take field.width)).length =
            field.width := by
        rw [length_recode, List.length_take]
        omega
      have laterFits : widthOf fields ≤ (bytes.drop field.width).length := by
        rw [List.length_drop]
        omega
      simp only [recodeFields]
      rw [List.take_left' chunkLength, List.drop_left' chunkLength,
        recode_reverse_recode, ih laterFits, List.take_append_drop]

end Direction

namespace Span

theorem slice_append {span : Span} {front chunk rest : Bytes}
    (frontLength : front.length = span.offset)
    (chunkLength : chunk.length = span.field.width) :
    span.slice (front ++ (chunk ++ rest)) = chunk := by
  rw [slice, ← frontLength, List.drop_left, ← chunkLength, List.take_left]

theorem exists_parts {span : Span} {buffer : Bytes}
    (fits : span.finish ≤ buffer.length) :
    ∃ front chunk rest, buffer = front ++ (chunk ++ rest) ∧
      front.length = span.offset ∧ chunk.length = span.field.width := by
  rw [finish] at fits
  refine ⟨buffer.take span.offset, span.slice buffer,
    (buffer.drop span.offset).drop span.field.width, ?_, ?_, ?_⟩
  · rw [slice, List.take_append_drop, List.take_append_drop]
  · rw [List.length_take]
    omega
  · rw [slice, List.length_take, List.length_drop]
    omega

end Span

/-- How a buffer differs after the given fields have been converted: each of
them holds the same integer in the other byte order, and from the offset
`stop` on nothing has changed. -/
structure Converted (direction : Direction) (spans : List Span) (stop : Nat)
    (before after : Bytes) : Prop where
  length_eq : after.length = before.length
  keepsInteger : ∀ span ∈ spans,
    direction.KeepsInteger (span.slice before) (span.slice after)
  untouched : ∀ position, stop ≤ position →
    after[position]? = before[position]?

private theorem keepsInteger_slice_recodeFields
    {direction : Direction} {first second : List Field} {span : Span}
    {buffer : Bytes} (placed : span.offset = widthOf first)
    (fits : span.finish ≤ buffer.length) :
    direction.KeepsInteger (span.slice buffer)
      (span.slice
        (direction.recodeFields (first ++ span.field :: second) buffer)) := by
  obtain ⟨front, chunk, rest, rfl, frontLength, chunkLength⟩ :=
    Span.exists_parts fits
  have recoded :
      direction.recodeFields (first ++ span.field :: second)
          (front ++ (chunk ++ rest)) =
        direction.recodeFields first front ++
          (direction.recode chunk ++ direction.recodeFields second rest) := by
    rw [Direction.recodeFields_append (frontLength.trans placed),
      Direction.recodeFields, ← chunkLength, List.take_left, List.drop_left]
  have sliceBefore : span.slice (front ++ (chunk ++ rest)) = chunk :=
    Span.slice_append frontLength chunkLength
  have sliceAfter :
      span.slice (direction.recodeFields first front ++
        (direction.recode chunk ++ direction.recodeFields second rest)) =
      direction.recode chunk :=
    Span.slice_append ((direction.length_recodeFields _ _).trans frontLength)
      ((direction.length_recode _).trans chunkLength)
  rw [recoded, sliceBefore, sliceAfter]
  exact direction.keepsInteger_recode chunk

/-- Recoding fields that fit converts them and nothing else. -/
theorem converted_recodeFields
    (direction : Direction) {fields : List Field} {buffer : Bytes}
    (fits : widthOf fields ≤ buffer.length) :
    Converted direction (place 0 fields) (widthOf fields) buffer
      (direction.recodeFields fields buffer) := by
  constructor
  · exact direction.length_recodeFields fields buffer
  · intro span member
    have within : span.finish ≤ buffer.length :=
      (forall_finish_le_iff (Nat.zero_le _)).mpr (by omega) span member
    obtain ⟨first, second, rfl, offsetEquality⟩ := mem_place_iff.mp member
    rw [Nat.zero_add] at offsetEquality
    exact keepsInteger_slice_recodeFields offsetEquality within
  · intro position beyond
    have frontLength :
        (direction.recodeFields fields
          (buffer.take (widthOf fields))).length = widthOf fields := by
      rw [Direction.length_recodeFields, List.length_take]
      omega
    rw [direction.recodeFields_of_fits fits,
      List.getElem?_append_right (by omega), List.getElem?_drop, frontLength]
    congr 1
    omega

end WireOrder
