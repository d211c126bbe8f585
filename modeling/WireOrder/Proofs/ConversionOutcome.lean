import WireOrder.Proofs.ConversionCourse

/-!
# How a conversion ends

A conversion meets one of three ends: it goes through, it comes to a field
that overruns the buffer, or it comes to the malformed entry of its format.
Which one it is depends on the lengths alone, and a field that overruns the
buffer is met before a malformed entry behind it.

The first main statement says when a conversion goes through and what it has
then done to the buffer; the second says with which fault any other ends and
what it has done until then.
-/

namespace WireOrder

section Items

variable {direction : Direction} {items : List Item} {buffer : Bytes}

/-- Tokens that do not fit are refused at the field that reaches over the end
of the buffer. -/
theorem convertItems_fault_of_short (direction : Direction)
    (short : buffer.length < lengthOf (leading items)) :
    ∃ offset needed,
      (convertItems direction items buffer).fault =
          some (.bufferTooShort offset needed buffer.length) ∧
        offset ≤ buffer.length ∧ buffer.length < offset + needed ∧
        offset + needed ≤ lengthOf (leading items) := by
  obtain ⟨before, field, after, split, room, overrun⟩ := exists_overrun short
  refine ⟨widthOf before, field.width, ?_, room, overrun, ?_⟩
  · rw [convertItems_of_overrun direction split room overrun]
  · rw [← widthOf_fieldsOf, split, widthOf_append, widthOf]
    omega

theorem convertItems_fault_eq_none_iff :
    (convertItems direction items buffer).fault = none ↔
      firstFault? items = none ∧
        lengthOf (leading items) ≤ buffer.length := by
  by_cases fits : lengthOf (leading items) ≤ buffer.length
  · rw [convertItems_of_fits direction fits]
    exact (and_iff_left fits).symm
  · obtain ⟨offset, needed, refused, _⟩ :=
      convertItems_fault_of_short direction (Nat.lt_of_not_le fits)
    rw [refused]
    constructor
    · intro faultless
      cases faultless
    · intro goesThrough
      exact absurd goesThrough.2 fits

theorem converted_convertItems
    (fits : lengthOf (leading items) ≤ buffer.length) :
    Converted direction (place 0 (fieldsOf (leading items)))
      (lengthOf (leading items)) buffer
      (convertItems direction items buffer).buffer := by
  rw [convertItems_of_fits direction fits, ← widthOf_fieldsOf]
  rw [← widthOf_fieldsOf] at fits
  exact converted_recodeFields direction fits

end Items

/-- A conversion goes through exactly if its format yields no fault and the
exact total length of its tokens is within the buffer.  It then returns the
whole buffer, in which every field of every token holds its integer in the
other byte order and no byte beyond the layout has changed. -/
theorem convert_ok_iff_layout_fits
    (direction : Direction) (format : String) (buffer : Bytes) :
    let items := (Tokenizer.ofString format).items
    let tokens := Tokenizer.tokensAmong items
    let outcome := convert direction format buffer
    ((∃ returned, outcome.result = .ok returned) ↔
        (∀ fault, .error fault ∉ items) ∧
          lengthOf tokens ≤ buffer.length) ∧
      ∀ returned, outcome.result = .ok returned →
        returned = outcome.buffer ∧
          Converted direction (place 0 (fieldsOf tokens)) (lengthOf tokens)
            buffer returned := by
  intro items tokens outcome
  have goesThrough :
      outcome.fault = none ↔
        firstFault? items = none ∧
          lengthOf (leading items) ≤ buffer.length :=
    convertItems_fault_eq_none_iff
  have allLeading : firstFault? items = none → leading items = tokens :=
    leading_eq_tokensAmong
  constructor
  · rw [← firstFault?_eq_none_iff]
    constructor
    · intro success
      obtain ⟨returned, succeeded⟩ := success
      obtain ⟨faultless, fits⟩ :=
        goesThrough.mp (Conversion.result_eq_ok_iff.mp succeeded).1
      exact ⟨faultless, allLeading faultless ▸ fits⟩
    · intro wellFormed
      obtain ⟨faultless, fits⟩ := wellFormed
      rw [← allLeading faultless] at fits
      exact ⟨outcome.buffer, Conversion.result_eq_ok_iff.mpr
        ⟨goesThrough.mpr ⟨faultless, fits⟩, rfl⟩⟩
  · intro returned succeeded
    obtain ⟨unfaulted, rfl⟩ := Conversion.result_eq_ok_iff.mp succeeded
    obtain ⟨faultless, fits⟩ := goesThrough.mp unfaulted
    rw [← allLeading faultless]
    exact ⟨rfl, converted_convertItems fits⟩

/-- A layout of eight bytes in a buffer of nine. -/
theorem convert_ok_with_trailing_byte :
    (convert .hostToNetwork "2bsi" [7, 8, 0x34, 0x12, 4, 3, 2, 1, 9]).result =
        .ok [7, 8, 0x12, 0x34, 1, 2, 3, 4, 9] ∧
      Converted .hostToNetwork
        (place 0 [.byte, .byte, .short, .int]) 8
        [7, 8, 0x34, 0x12, 4, 3, 2, 1, 9]
        [7, 8, 0x12, 0x34, 1, 2, 3, 4, 9] := by
  have succeeded :
      (convert .hostToNetwork "2bsi"
        [7, 8, 0x34, 0x12, 4, 3, 2, 1, 9]).result =
          .ok [7, 8, 0x12, 0x34, 1, 2, 3, 4, 9] :=
    Conversion.result_eq_ok_iff.mpr (by decide +kernel)
  have tokens :
      Tokenizer.tokensAmong (Tokenizer.ofString "2bsi").items =
        [⟨2, .byte⟩, ⟨1, .short⟩, ⟨1, .int⟩] := by decide +kernel
  have effect := ((convert_ok_iff_layout_fits _ _ _).2 _ succeeded).2
  rw [tokens] at effect
  exact ⟨succeeded, effect⟩

/-- A conversion is stopped by the first of its fields that ends beyond the
buffer, whatever follows in the format, and otherwise by the malformed entry
of the format.  The fields before that point are converted, and nothing from
there on has changed. -/
theorem convert_error_of_first_obstacle
    (direction : Direction) (format : String) (buffer : Bytes) :
    let items := (Tokenizer.ofString format).items
    let spans := place 0 (fieldsOf (leading items))
    let outcome := convert direction format buffer
    (∀ before span after, spans = before ++ span :: after →
        (∀ early ∈ before, early.finish ≤ buffer.length) →
        buffer.length < span.finish →
        outcome.result = .error (.bufferTooShort span.offset
            span.field.width buffer.length) ∧
          Converted direction before span.offset buffer outcome.buffer) ∧
      ∀ fault, (∀ span ∈ spans, span.finish ≤ buffer.length) →
        firstFault? items = some fault →
        outcome.result = .error fault ∧
          Converted direction spans (lengthOf (leading items)) buffer
            outcome.buffer := by
  intro items spans outcome
  constructor
  · intro before span after placed room overrun
    obtain ⟨split, beforePlaced, offsetEquality⟩ :=
      place_eq_append_cons placed
    rw [Nat.zero_add] at offsetEquality
    have widthWithin : widthOf (before.map Span.field) ≤ buffer.length := by
      rw [← beforePlaced, forall_finish_le_iff (Nat.zero_le _),
        Nat.zero_add] at room
      exact room
    rw [Span.finish, offsetEquality] at overrun
    have stopped : outcome = _ :=
      convertItems_of_overrun direction split widthWithin overrun
    have converted := converted_recodeFields direction widthWithin
    rw [beforePlaced, ← offsetEquality] at converted
    rw [stopped]
    exact ⟨by rw [offsetEquality]; rfl, converted⟩
  · intro fault room faulted
    rw [forall_finish_le_iff (Nat.zero_le _), Nat.zero_add,
      widthOf_fieldsOf] at room
    have stopped : outcome.fault = some fault := by
      rw [← faulted]
      exact congrArg Conversion.fault (convertItems_of_fits direction room)
    exact ⟨Conversion.result_eq_error_iff.mpr stopped,
      converted_convertItems room⟩

/-- A buffer that ends inside the second of two integers stops the conversion
there; one that holds both lets it come to the malformed entry. -/
theorem convert_error_inside_count_or_at_entry :
    (convert .networkToHost "s2ix" [1, 2, 3, 4, 5, 6, 7]).result =
        .error (.bufferTooShort 6 4 7) ∧
      Converted .networkToHost [⟨0, .short⟩, ⟨2, .int⟩] 6
        [1, 2, 3, 4, 5, 6, 7]
        (convert .networkToHost "s2ix" [1, 2, 3, 4, 5, 6, 7]).buffer ∧
      (convert .networkToHost "s2ix" [1, 2, 3, 4, 5, 6, 7, 8, 9, 10]).result =
        .error (.malformedFormat 3 (.unknownTypeCode 'x')) := by
  have placed :
      place 0 (fieldsOf (leading (Tokenizer.ofString "s2ix").items)) =
        [⟨0, .short⟩, ⟨2, .int⟩] ++ ⟨6, .int⟩ :: [] := by decide +kernel
  have malformed :
      firstFault? (Tokenizer.ofString "s2ix").items =
        some (.malformedFormat 3 (.unknownTypeCode 'x')) := by decide +kernel
  have stopped :=
    (convert_error_of_first_obstacle .networkToHost "s2ix"
      [1, 2, 3, 4, 5, 6, 7]).1 _ _ _ placed (by decide) (by decide)
  have refused :=
    (convert_error_of_first_obstacle .networkToHost "s2ix"
      [1, 2, 3, 4, 5, 6, 7, 8, 9, 10]).2 _ (by rw [placed]; decide) malformed
  exact ⟨stopped.1, stopped.2, refused.1⟩

end WireOrder
