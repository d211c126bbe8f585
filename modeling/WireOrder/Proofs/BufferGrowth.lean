import WireOrder.Proofs.ConversionCourse
import WireOrder.Proofs.FormatReading

/-!
# Conversion of a longer buffer

Bytes behind a buffer do not change how far a conversion gets, unless it was
the end of the buffer that stopped it.  In that case it stops at the same field
as long as this field does not fit, and beyond this field as soon as it does.
-/

namespace WireOrder

section Course

variable {items : List Item} {first second : List Field} {length : Nat}

theorem exists_convertedFields_append
    (split : fieldsOf (leading items) = first ++ second)
    (room : widthOf first ≤ length) :
    ∃ more, convertedFields items length = first ++ more := by
  rw [convertedFields, convertedSpans, split, fitting_append room,
    List.map_append, map_field_place]
  exact ⟨_, rfl⟩

theorem widthOf_le_of_firstOverrun? {span : Span}
    (room : widthOf first ≤ length)
    (overrun : firstOverrun? length (first ++ second) = some span) :
    widthOf first ≤ span.offset := by
  rw [firstOverrun?_append room] at overrun
  obtain ⟨before, _, _, offsetEquality⟩ :=
    mem_place_iff.mp (List.mem_of_find?_eq_some overrun)
  rw [offsetEquality]
  exact Nat.le_add_right _ _

end Course

section Format

variable {format : String} {length offset needed available : Nat}

theorem firstOverrun?_of_ending
    (stopped : ending (Tokenizer.ofString format).items length =
      some (.bufferTooShort offset needed available)) :
    ∃ field,
      firstOverrun? length
          (fieldsOf (leading (Tokenizer.ofString format).items)) =
        some ⟨offset, field⟩ ∧
      needed = field.width ∧ available = length := by
  unfold ending at stopped
  split at stopped
  · rename_i span found
    cases stopped
    exact ⟨span.field, found, rfl, rfl⟩
  · cases blamesFormat_of_firstFault? stopped

theorem fits_of_ending
    (unstopped : ∀ fault,
      ending (Tokenizer.ofString format).items length = some fault →
      fault.blamesFormat = true) :
    lengthOf (leading (Tokenizer.ofString format).items) ≤ length := by
  apply Nat.le_of_not_lt
  intro short
  obtain ⟨before, field, after, split, room, overrun⟩ := exists_overrun short
  cases unstopped _ (course_of_overrun split room overrun).2

end Format

/-- A conversion that goes through or comes to a malformed entry does the same
in every longer buffer and leaves the bytes behind alone.  One that is stopped
by a field stops there in every longer buffer that still does not hold the
field; in any other it converts the same fields up to there and, if a field
stops it again, that field comes later. -/
theorem conversion_in_longer_buffer (direction : Direction) (format : String)
    (buffer extra : Bytes) :
    ((∀ fault, (convert direction format buffer).fault = some fault →
        fault.blamesFormat = true) →
      convert direction format (buffer ++ extra) =
        ⟨(convert direction format buffer).buffer ++ extra,
          (convert direction format buffer).fault⟩) ∧
    ∀ offset needed available,
      (convert direction format buffer).fault =
        some (.bufferTooShort offset needed available) →
      (offset ≤ buffer.length ∧ available = buffer.length) ∧
      (buffer.length + extra.length < offset + needed →
        convert direction format (buffer ++ extra) =
          ⟨(convert direction format buffer).buffer ++ extra,
            some (.bufferTooShort offset needed
              (buffer.length + extra.length))⟩) ∧
      (offset + needed ≤ buffer.length + extra.length →
        (convert direction format (buffer ++ extra)).buffer.take offset =
            (convert direction format buffer).buffer.take offset ∧
          ∀ later width capacity,
            (convert direction format (buffer ++ extra)).fault =
              some (.bufferTooShort later width capacity) →
            offset + needed ≤ later) := by
  rw [convert_eq, convert_eq, List.length_append]
  constructor
  · intro unstopped
    have fits := fits_of_ending unstopped
    obtain ⟨reached, ended⟩ := course_of_fits fits
    obtain ⟨reachedAgain, endedAgain⟩ :=
      course_of_fits (Nat.le_add_right_of_le fits)
    rw [reached, ended, reachedAgain, endedAgain,
      direction.recodeFields_append_right]
    rwa [widthOf_fieldsOf]
  · intro offset needed available stopped
    obtain ⟨field, found, rfl, rfl⟩ := firstOverrun?_of_ending stopped
    obtain ⟨before, after, split, rfl, room, overrun⟩ :=
      exists_split_of_firstOverrun? found
    obtain ⟨reached, _⟩ := course_of_overrun split room overrun
    have roomAgain : widthOf before ≤ buffer.length + extra.length :=
      Nat.le_add_right_of_le room
    rw [reached]
    refine ⟨⟨room, rfl⟩, ?_, ?_⟩
    · intro stillShort
      obtain ⟨reachedAgain, endedAgain⟩ :=
        course_of_overrun split roomAgain stillShort
      rw [reachedAgain, endedAgain, direction.recodeFields_append_right room]
    · intro holds
      constructor
      · obtain ⟨more, longer⟩ :=
          exists_convertedFields_append split roomAgain
        have alone := direction.take_recodeFields_append room []
        rw [List.append_nil] at alone
        rw [← List.length_append] at roomAgain
        rw [longer, alone, direction.take_recodeFields_append roomAgain,
          List.take_append_of_le_length room]
      · intro later width capacity stoppedAgain
        -- The field that stopped the conversion is now one of those that fit.
        have regrouped :
            fieldsOf (leading (Tokenizer.ofString format).items) =
              (before ++ [field]) ++ after := by
          rw [split, List.append_assoc, List.singleton_append]
        have fieldFits : widthOf (before ++ [field]) ≤
            buffer.length + extra.length := by
          rw [widthOf_append]
          exact holds
        obtain ⟨other, foundAgain, _, _⟩ :=
          firstOverrun?_of_ending stoppedAgain
        rw [regrouped] at foundAgain
        have beyond := widthOf_le_of_firstOverrun? fieldFits foundAgain
        rw [widthOf_append] at beyond
        exact beyond

/-- One byte less than the second integer takes stops the conversion where no
byte of it does; all of its bytes let the conversion come to the malformed
entry. -/
theorem conversion_in_longer_buffer_around_second_integer :
    (convert .hostToNetwork "s2ix" [1, 2, 3, 4, 5, 6]).fault =
        some (.bufferTooShort 6 4 6) ∧
      convert .hostToNetwork "s2ix" ([1, 2, 3, 4, 5, 6] ++ [7, 8, 9]) =
        ⟨[2, 1, 6, 5, 4, 3, 7, 8, 9], some (.bufferTooShort 6 4 9)⟩ ∧
      (convert .hostToNetwork "s2ix"
          ([1, 2, 3, 4, 5, 6] ++ [7, 8, 9, 10])).buffer.take 6 =
        [2, 1, 6, 5, 4, 3] ∧
      convert .hostToNetwork "s2ix"
          ([1, 2, 3, 4, 5, 6, 7, 8, 9, 10] ++ [11]) =
        ⟨[2, 1, 6, 5, 4, 3, 10, 9, 8, 7, 11],
          some (.malformedFormat 3 (.unknownTypeCode 'x'))⟩ := by
  have short : (convert .hostToNetwork "s2ix" [1, 2, 3, 4, 5, 6]).fault =
      some (.bufferTooShort 6 4 6) := by decide +kernel
  have blames : ∀ fault,
      (convert .hostToNetwork "s2ix"
        [1, 2, 3, 4, 5, 6, 7, 8, 9, 10]).fault = some fault →
      fault.blamesFormat = true := by
    have malformed : (convert .hostToNetwork "s2ix"
        [1, 2, 3, 4, 5, 6, 7, 8, 9, 10]).fault =
          some (.malformedFormat 3 (.unknownTypeCode 'x')) := by
      decide +kernel
    intro fault faulted
    cases malformed.symm.trans faulted
    rfl
  have stopped (extra : Bytes) :=
    (conversion_in_longer_buffer .hostToNetwork "s2ix" [1, 2, 3, 4, 5, 6]
      extra).2 6 4 6 short
  have unstopped :=
    (conversion_in_longer_buffer .hostToNetwork "s2ix"
      [1, 2, 3, 4, 5, 6, 7, 8, 9, 10] [11]).1 blames
  refine ⟨short, ?_, ?_, ?_⟩
  · exact ((stopped [7, 8, 9]).2.1 (by decide)).trans (by decide +kernel)
  · exact ((stopped [7, 8, 9, 10]).2.2 (by decide)).1.trans
      (by decide +kernel)
  · exact unstopped.trans (by decide +kernel)

end WireOrder
