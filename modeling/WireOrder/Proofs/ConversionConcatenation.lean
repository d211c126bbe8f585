import WireOrder.Proofs.ConversionOutcome
import WireOrder.Proofs.FormatConcatenation

/-!
# Conversion under two formats one after the other

A conversion that has crossed the layout of a well-formed format goes on as a
conversion of the rest of the buffer would begin.  Only the places it reports
differ: a position in the format by the length of the format that came first,
an offset in the buffer by the length of its layout.
-/

namespace WireOrder

namespace Fault

/-- The fault as it is reported when the given number of bytes stand in front
of the buffer. -/
def laterInBuffer (bytes : Nat) : Fault → Fault
  | malformedFormat position malformation =>
      malformedFormat position malformation
  | bufferTooShort offset needed available =>
      bufferTooShort (offset + bytes) needed (available + bytes)

theorem laterInBuffer_of_blamesFormat (bytes : Nat) {fault : Fault}
    (blames : fault.blamesFormat = true) :
    fault.laterInBuffer bytes = fault := by
  cases fault with
  | malformedFormat position malformation => rfl
  | bufferTooShort offset needed available => cases blames

end Fault

section Walk

variable {tokens : List Token} {buffer : Bytes}

theorem convertItems_laterInFormat (direction : Direction) (bytes : Nat)
    (items : List Item) (buffer : Bytes) :
    let outcome := convertItems direction items buffer
    convertItems direction
        (items.map (Except.mapError (Fault.laterInFormat bytes))) buffer =
      ⟨outcome.buffer, outcome.fault.map (Fault.laterInFormat bytes)⟩ := by
  intro outcome
  have sameTokens := leading_mapError (Fault.laterInFormat bytes) items
  have sameFields :
      convertedFields (items.map (Except.mapError (Fault.laterInFormat bytes)))
        buffer.length = convertedFields items buffer.length := by
    rw [convertedFields, convertedSpans, sameTokens]
    rfl
  have moved :
      ending (items.map (Except.mapError (Fault.laterInFormat bytes)))
        buffer.length =
      (ending items buffer.length).map (Fault.laterInFormat bytes) := by
    unfold ending
    rw [sameTokens, firstFault?_mapError]
    cases firstOverrun? buffer.length (fieldsOf (leading items)) with
    | some span => rfl
    | none => rfl
  have walked : outcome = _ := convertItems_eq direction items buffer
  rw [walked, convertItems_eq, sameFields, moved]

theorem convertItems_append_of_short (direction : Direction)
    (items : List Item) (short : buffer.length < lengthOf tokens) :
    convertItems direction (tokens.map .ok ++ items) buffer =
      convertItems direction (tokens.map .ok) buffer := by
  rw [← leading_map_ok tokens] at short
  obtain ⟨before, field, after, split, room, overrun⟩ := exists_overrun short
  have longer :
      fieldsOf (leading (tokens.map Except.ok ++ items)) =
        before ++ field :: (after ++ fieldsOf (leading items)) := by
    rw [leading_map_ok] at split
    rw [leading_map_ok_append, fieldsOf_append, split, List.append_assoc,
      List.cons_append]
  rw [convertItems_of_overrun direction longer room overrun,
    convertItems_of_overrun direction split room overrun]

theorem convertItems_append_of_fits (direction : Direction)
    {items : List Item} (fits : lengthOf tokens ≤ buffer.length)
    (blames : ∀ fault, firstFault? items = some fault →
      fault.blamesFormat = true) :
    let rest := convertItems direction items (buffer.drop (lengthOf tokens))
    convertItems direction (tokens.map .ok ++ items) buffer =
      ⟨direction.recodeFields (fieldsOf tokens)
          (buffer.take (lengthOf tokens)) ++ rest.buffer,
        rest.fault.map (Fault.laterInBuffer (lengthOf tokens))⟩ := by
  intro rest
  have restLength : (buffer.drop (lengthOf tokens)).length =
      buffer.length - lengthOf tokens := List.length_drop
  have fieldsFit : widthOf (fieldsOf tokens) ≤ buffer.length := by
    rwa [widthOf_fieldsOf]
  have recoded (fields : List Field) :=
    direction.recodeFields_append_of_fits fields fieldsFit
  rw [widthOf_fieldsOf] at recoded
  by_cases restFits :
      lengthOf (leading items) ≤ (buffer.drop (lengthOf tokens)).length
  · have walked : rest = _ := convertItems_of_fits direction restFits
    have unmoved : (firstFault? items).map
        (Fault.laterInBuffer (lengthOf tokens)) = firstFault? items := by
      cases faulted : firstFault? items with
      | none => rfl
      | some fault =>
          rw [Option.map_some,
            Fault.laterInBuffer_of_blamesFormat _ (blames fault faulted)]
    have wholeFits :
        lengthOf (leading (tokens.map Except.ok ++ items)) ≤
          buffer.length := by
      rw [leading_map_ok_append, lengthOf_append]
      omega
    rw [convertItems_of_fits direction wholeFits, leading_map_ok_append,
      firstFault?_map_ok_append, fieldsOf_append, recoded, walked, unmoved]
  · obtain ⟨before, field, after, split, room, overrun⟩ :=
      exists_overrun (Nat.lt_of_not_le restFits)
    have walked : rest = _ :=
      convertItems_of_overrun direction split room overrun
    have wholeSplit :
        fieldsOf (leading (tokens.map Except.ok ++ items)) =
          (fieldsOf tokens ++ before) ++ field :: after := by
      rw [leading_map_ok_append, fieldsOf_append, split, List.append_assoc]
    have beforeWidth : widthOf (fieldsOf tokens ++ before) =
        widthOf before + lengthOf tokens := by
      rw [widthOf_append, widthOf_fieldsOf, Nat.add_comm]
    have wholeRoom :
        widthOf (fieldsOf tokens ++ before) ≤ buffer.length := by omega
    have wholeOverrun : buffer.length <
        widthOf (fieldsOf tokens ++ before) + field.width := by omega
    have available :
        (buffer.drop (lengthOf tokens)).length + lengthOf tokens =
          buffer.length := by omega
    rw [convertItems_of_overrun direction wholeSplit wholeRoom wholeOverrun,
      recoded, walked, beforeWidth, Option.map_some, Fault.laterInBuffer,
      available]

theorem take_buffer_convertItems (direction : Direction)
    (fits : lengthOf tokens ≤ buffer.length) :
    (convertItems direction (tokens.map .ok) buffer).buffer.take
        (lengthOf tokens) =
      direction.recodeFields (fieldsOf tokens)
        (buffer.take (lengthOf tokens)) := by
  have tokensFit :
      lengthOf (leading (tokens.map Except.ok)) ≤ buffer.length := by
    rwa [leading_map_ok]
  have fieldsFit : widthOf (fieldsOf tokens) ≤ buffer.length := by
    rwa [widthOf_fieldsOf]
  have alone := direction.take_recodeFields_append fieldsFit []
  rw [List.append_nil, widthOf_fieldsOf] at alone
  rw [convertItems_of_fits direction tokensFit, leading_map_ok]
  exact alone

end Walk

/-- A format behind a well-formed one is converted as its items are behind the
tokens of the first. -/
theorem convert_append_eq (direction : Direction) {first : String}
    {entries : List Entry} (cut : ConsistsOf first entries) (second : String)
    (buffer : Bytes) :
    let outcome := convertItems direction
      ((entries.map Entry.token).map .ok ++
        (Tokenizer.ofString second).items) buffer
    convert direction (first ++ second) buffer =
      ⟨outcome.buffer,
        outcome.fault.map (Fault.laterInFormat first.utf8ByteSize)⟩ := by
  intro outcome
  have moved := convertItems_laterInFormat direction first.utf8ByteSize
    ((entries.map Entry.token).map .ok ++ (Tokenizer.ofString second).items)
    buffer
  -- Tokens hold no position, so those of the first format are not moved.
  have unmoved :
      ((entries.map Entry.token).map (Except.ok : Token → Item)).map
          (Except.mapError (Fault.laterInFormat first.utf8ByteSize)) =
        (entries.map Entry.token).map .ok := List.map_map
  rw [List.map_append, unmoved] at moved
  rw [convert_eq_convertItems, Tokenizer.items_append cut, cut.items_eq]
  exact moved

/-- Conversion under a well-formed format and another one behind it.  A buffer
too short for the first layout is converted, and refused, as under the first
format alone.  Otherwise the front of the buffer is converted as under the
first format and the rest as under the second, whose outcome is that of the
whole, with every position moved by the length of the first format and every
offset by the length of its layout. -/
theorem convert_append (direction : Direction) (first second : String)
    (buffer : Bytes)
    (accepted : ∀ fault, .error fault ∉ (Tokenizer.ofString first).items) :
    let length :=
      lengthOf (Tokenizer.tokensAmong (Tokenizer.ofString first).items)
    let whole := convert direction (first ++ second) buffer
    let front := convert direction first buffer
    let rest := convert direction second (buffer.drop length)
    (buffer.length < length →
        (∃ fault, front.result = .error fault ∧
            whole.result = .error fault) ∧
          whole.buffer = front.buffer) ∧
      (length ≤ buffer.length →
        whole.buffer = front.buffer.take length ++ rest.buffer ∧
          whole.fault = rest.fault.map fun fault =>
            (fault.laterInBuffer length).laterInFormat
              first.utf8ByteSize) := by
  have faultless := firstFault?_eq_none_iff.mpr accepted
  obtain ⟨entries, cut⟩ :=
    wellFormed_iff_consistsOf.mp (wellFormed_iff_faultless.mpr faultless)
  rw [← leading_eq_tokensAmong faultless, cut.leading_items]
  intro length whole front rest
  let tokens := entries.map Entry.token
  have frontEquality :
      front = convertItems direction (tokens.map .ok) buffer := by
    rw [← cut.items_eq]
    rfl
  have wholeEquality : whole = _ :=
    convert_append_eq direction cut second buffer
  constructor
  · intro short
    have tokensShort :
        buffer.length < lengthOf (leading (tokens.map Except.ok)) := by
      rwa [leading_map_ok]
    obtain ⟨offset, needed, faulted, _⟩ :=
      convertItems_fault_of_short direction tokensShort
    rw [convertItems_append_of_short direction _ short, ← frontEquality]
      at wholeEquality
    rw [← frontEquality] at faulted
    rw [wholeEquality]
    refine ⟨⟨_, Conversion.result_eq_error_iff.mpr faulted, ?_⟩, rfl⟩
    rw [Conversion.result_eq_error_iff, faulted]
    rfl
  · intro fits
    rw [convertItems_append_of_fits direction fits
      fun _ => blamesFormat_of_firstFault?] at wholeEquality
    rw [wholeEquality, frontEquality, take_buffer_convertItems direction fits]
    exact ⟨rfl, Option.map_map _ _ _⟩

/-- A buffer of five bytes ends inside the first layout, one of eight inside
the second, and one of nine holds both up to the malformed entry. -/
theorem convert_append_in_three_buffers :
    let whole := convert .hostToNetwork ("si" ++ "bs3x")
    (∀ fault, .error fault ∉ (Tokenizer.ofString "si").items) ∧
      (whole [1, 2, 3, 4, 5]).buffer = [2, 1, 3, 4, 5] ∧
      ((whole [1, 2, 3, 4, 5, 6, 7, 8]).buffer = [2, 1, 6, 5, 4, 3, 7, 8] ∧
        (whole [1, 2, 3, 4, 5, 6, 7, 8]).fault =
          some (.bufferTooShort 7 2 8)) ∧
      (whole [1, 2, 3, 4, 5, 6, 7, 8, 9]).buffer =
          [2, 1, 6, 5, 4, 3, 7, 9, 8] ∧
        (whole [1, 2, 3, 4, 5, 6, 7, 8, 9]).fault =
          some (.malformedFormat 5 (.unknownTypeCode 'x')) := by
  have accepted : ∀ fault, .error fault ∉ (Tokenizer.ofString "si").items :=
    firstFault?_eq_none_iff.mp (by decide +kernel)
  have composed (buffer : Bytes) :=
    convert_append .hostToNetwork "si" "bs3x" buffer accepted
  obtain ⟨_, unfinished⟩ := (composed [1, 2, 3, 4, 5]).1 (by decide +kernel)
  obtain ⟨shortBuffer, shortFault⟩ :=
    (composed [1, 2, 3, 4, 5, 6, 7, 8]).2 (by decide +kernel)
  obtain ⟨longBuffer, longFault⟩ :=
    (composed [1, 2, 3, 4, 5, 6, 7, 8, 9]).2 (by decide +kernel)
  refine ⟨accepted, unfinished.trans (by decide +kernel), ⟨?_, ?_⟩, ?_, ?_⟩
  · exact shortBuffer.trans (by decide +kernel)
  · exact shortFault.trans (by decide +kernel)
  · exact longBuffer.trans (by decide +kernel)
  · exact longFault.trans (by decide +kernel)

end WireOrder
