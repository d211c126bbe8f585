import WireOrder.Proofs.ConversionOutcome
import WireOrder.Proofs.LayoutParsing

/-!
# Conversion through a layout

A layout knows its exact length before it touches a buffer, so a conversion
through it changes either all of its fields or nothing.  Where it goes through,
the conversion under the format text does the same; where it does not, that
conversion fails as well, but only at the field or at the entry it has come to.
-/

namespace WireOrder

section FittingLayout

variable {format : String} {layout : Layout} {buffer : Bytes}

namespace Layout

theorem convertItems_of_parse (direction : Direction)
    (parsed : parse format = .ok layout)
    (fits : layout.byteLength ≤ buffer.length) :
    convertItems direction (layout.tokens.toList.map .ok) buffer =
      ⟨direction.recodeFields (fieldsOf layout.tokens.toList) buffer,
        none⟩ := by
  obtain ⟨_, _, _, lengthEquality⟩ := parse_eq_ok_iff.mp parsed
  have tokensFit :
      lengthOf (leading
        (layout.tokens.toList.map (Except.ok : Token → Item))) ≤
          buffer.length := by
    rw [leading_map_ok, ← lengthEquality]
    exact fits
  rw [convertItems_of_fits direction tokensFit, leading_map_ok,
    firstFault?_map_ok]

theorem convert_of_fits (direction : Direction)
    (parsed : parse format = .ok layout)
    (fits : layout.byteLength ≤ buffer.length) :
    layout.convert direction buffer =
      ⟨direction.recodeFields (fieldsOf layout.tokens.toList) buffer,
        none⟩ := by
  rw [convert, if_neg (Nat.not_lt_of_le fits)]
  exact convertItems_of_parse direction parsed fits

theorem convert_of_short (direction : Direction)
    (short : buffer.length < layout.byteLength) :
    layout.convert direction buffer =
      ⟨buffer,
        some (.bufferTooShort 0 layout.byteLength buffer.length)⟩ := by
  rw [convert, if_pos short]

theorem fits_of_convert_ok {direction : Direction} {returned : Bytes}
    (succeeded :
      (layout.convert direction buffer).result = .ok returned) :
    layout.byteLength ≤ buffer.length := by
  apply Nat.le_of_not_lt
  intro short
  rw [convert_of_short direction short] at succeeded
  cases succeeded

theorem short_of_convert_error {direction : Direction} {fault : Fault}
    (parsed : parse format = .ok layout)
    (refused :
      (layout.convert direction buffer).result = .error fault) :
    buffer.length < layout.byteLength ∧
      fault = .bufferTooShort 0 layout.byteLength buffer.length := by
  have short : buffer.length < layout.byteLength := by
    apply Nat.lt_of_not_le
    intro fits
    rw [convert_of_fits direction parsed fits] at refused
    cases refused
  rw [convert_of_short direction short] at refused
  cases refused
  exact ⟨short, rfl⟩

end Layout

/-- Where the layout of a format fits, the conversion under the format text
comes to the same as the conversion through the layout. -/
theorem convert_eq_layout_convert (direction : Direction)
    (parsed : Layout.parse format = .ok layout)
    (fits : layout.byteLength ≤ buffer.length) :
    convert direction format buffer = layout.convert direction buffer := by
  obtain ⟨faultless, _, tokensEquality, lengthEquality⟩ :=
    Layout.parse_eq_ok_iff.mp parsed
  have tokensFit :
      lengthOf (leading (Tokenizer.ofString format).items) ≤
        buffer.length := by
    rw [← tokensEquality, ← lengthEquality]
    exact fits
  rw [convert_eq_convertItems, convertItems_of_fits direction tokensFit,
    faultless, layout.convert_of_fits direction parsed fits,
    tokensEquality]

theorem exists_layout_of_convert {direction : Direction} {returned : Bytes}
    (addressable : buffer.length < sizeLimit)
    (succeeded :
      (convert direction format buffer).result = .ok returned) :
    ∃ layout, Layout.parse format = .ok layout ∧
      layout.byteLength ≤ buffer.length := by
  have unfaulted := (Conversion.result_eq_ok_iff.mp succeeded).1
  rw [convert_eq_convertItems, convertItems_fault_eq_none_iff] at unfaulted
  obtain ⟨faultless, fits⟩ := unfaulted
  refine ⟨⟨(leading (Tokenizer.ofString format).items).toArray,
    lengthOf (leading (Tokenizer.ofString format).items)⟩, ?_, fits⟩
  apply Layout.parse_eq_ok_iff.mpr
  -- What fits a buffer is a size, because the length of the buffer is one.
  exact ⟨faultless, Nat.lt_of_le_of_lt fits addressable, rfl, rfl⟩

theorem convert_error_of_layout_short (direction : Direction)
    (parsed : Layout.parse format = .ok layout)
    (short : buffer.length < layout.byteLength) :
    ∃ offset needed,
      (convert direction format buffer).result =
          .error (.bufferTooShort offset needed buffer.length) ∧
        offset ≤ buffer.length ∧ buffer.length < offset + needed ∧
        offset + needed ≤ layout.byteLength := by
  obtain ⟨_, _, tokensEquality, lengthEquality⟩ :=
    Layout.parse_eq_ok_iff.mp parsed
  rw [lengthEquality, tokensEquality] at short ⊢
  obtain ⟨offset, needed, faulted, bounds⟩ :=
    convertItems_fault_of_short direction short
  exact ⟨offset, needed, Conversion.result_eq_error_iff.mpr faulted, bounds⟩

theorem convert_error_of_parse_error {fault : Fault} (direction : Direction)
    (addressable : buffer.length < sizeLimit)
    (refused : Layout.parse format = .error fault)
    (fits : lengthOf (leading (Tokenizer.ofString format).items) ≤
      buffer.length) :
    (convert direction format buffer).result = .error fault := by
  have small := Nat.lt_of_le_of_lt fits addressable
  apply Conversion.result_eq_error_iff.mpr
  rw [convert_eq_convertItems, convertItems_of_fits direction fits]
  exact Layout.firstFault?_of_parse_error small refused

end FittingLayout

/-- The two ways of converting agree on every format and every buffer of
addressable length.  Both go through or neither does, with the same bytes if
they do.  A layout that does not fit is refused as a whole, and the walk under
its format at one of its fields.  A format that cannot be read as a whole
fails the walk too: with the same fault if all tokens before it fit, and
otherwise because they do not. -/
theorem convert_refines_layout_convert
    (direction : Direction) (format : String) (buffer : Bytes)
    (addressable : buffer.length < sizeLimit) :
    let direct := convert direction format buffer
    let compiled := fun layout : Layout => layout.convert direction buffer
    let tokens := leading (Tokenizer.ofString format).items
    ((∀ returned, direct.result = .ok returned ↔
          ∃ layout, Layout.parse format = .ok layout ∧
            (compiled layout).result = .ok returned) ∧
        ∀ layout returned, Layout.parse format = .ok layout →
          (compiled layout).result = .ok returned →
          direct.buffer = (compiled layout).buffer) ∧
      (∀ layout fault, Layout.parse format = .ok layout →
        (compiled layout).result = .error fault →
        fault = .bufferTooShort 0 layout.byteLength buffer.length ∧
          ∃ offset needed,
            direct.result =
                .error (.bufferTooShort offset needed buffer.length) ∧
              offset ≤ buffer.length ∧ buffer.length < offset + needed ∧
              offset + needed ≤ layout.byteLength) ∧
      ∀ fault, Layout.parse format = .error fault →
        (lengthOf tokens ≤ buffer.length → direct.result = .error fault) ∧
          (buffer.length < lengthOf tokens → ∃ offset needed,
            direct.result =
              .error (.bufferTooShort offset needed buffer.length)) := by
  intro direct compiled tokens
  have sameOutcome : ∀ layout returned, Layout.parse format = .ok layout →
      (compiled layout).result = .ok returned →
      direct = compiled layout := by
    intro layout returned parsed succeeded
    exact convert_eq_layout_convert direction parsed
      (Layout.fits_of_convert_ok succeeded)
  refine ⟨⟨?_, ?_⟩, ?_, ?_⟩
  · intro returned
    constructor
    · intro succeeded
      obtain ⟨layout, parsed, fits⟩ :=
        exists_layout_of_convert addressable succeeded
      have same : direct = compiled layout :=
        convert_eq_layout_convert direction parsed fits
      exact ⟨layout, parsed, same ▸ succeeded⟩
    · intro viaLayout
      obtain ⟨layout, parsed, succeeded⟩ := viaLayout
      rw [sameOutcome layout returned parsed succeeded]
      exact succeeded
  · intro layout returned parsed succeeded
    rw [sameOutcome layout returned parsed succeeded]
  · intro layout fault parsed refused
    obtain ⟨short, faultEquality⟩ :=
      Layout.short_of_convert_error parsed refused
    exact ⟨faultEquality,
      convert_error_of_layout_short direction parsed short⟩
  · intro fault refused
    constructor
    · intro fits
      exact convert_error_of_parse_error direction addressable refused fits
    · intro short
      obtain ⟨offset, needed, faulted, _⟩ :=
        convertItems_fault_of_short direction short
      exact ⟨offset, needed, Conversion.result_eq_error_iff.mpr faulted⟩

/-- The layout of ten bytes is refused for a buffer of six, and so is the
second integer under its format. -/
theorem convert_refines_layout_convert_of_short_buffer :
    ([0x34, 0x12, 4, 3, 2, 1] : Bytes).length < sizeLimit ∧
      Layout.parse "1s2i" = .ok ⟨#[⟨1, .short⟩, ⟨2, .int⟩], 10⟩ ∧
      ∃ offset needed,
        (convert .hostToNetwork "1s2i" [0x34, 0x12, 4, 3, 2, 1]).result =
            .error (.bufferTooShort offset needed 6) ∧
          offset ≤ 6 ∧ 6 < offset + needed ∧ offset + needed ≤ 10 := by
  have parsed :
      Layout.parse "1s2i" = .ok ⟨#[⟨1, .short⟩, ⟨2, .int⟩], 10⟩ :=
    Layout.parse_eq_ok_iff.mpr (by decide +kernel)
  have refused :
      (Layout.convert .hostToNetwork ⟨#[⟨1, .short⟩, ⟨2, .int⟩], 10⟩
        [0x34, 0x12, 4, 3, 2, 1]).result =
          .error (.bufferTooShort 0 10 6) := rfl
  have addressable :
      ([0x34, 0x12, 4, 3, 2, 1] : Bytes).length < sizeLimit := by decide
  obtain ⟨_, agreement, _⟩ :=
    convert_refines_layout_convert .hostToNetwork "1s2i" _ addressable
  exact ⟨addressable, parsed, (agreement _ _ parsed refused).2⟩

/-- A conversion through a layout is all or nothing.  It fails exactly on a
buffer shorter than the layout, which it reports as a whole and leaves as it
was, and otherwise converts every field of the layout; the walk that does so
cannot be stopped any more. -/
theorem layout_convert_all_or_nothing
    (format : String) (layout : Layout)
    (parsed : Layout.parse format = .ok layout)
    (direction : Direction) (buffer : Bytes) :
    let outcome := layout.convert direction buffer
    ((∃ fault, outcome.result = .error fault) ↔
        buffer.length < layout.byteLength) ∧
      (∀ fault, outcome.result = .error fault →
        fault = .bufferTooShort 0 layout.byteLength buffer.length ∧
          outcome.buffer = buffer) ∧
      (∀ returned, outcome.result = .ok returned →
        returned = outcome.buffer ∧
          Converted direction (place 0 (fieldsOf layout.tokens.toList))
            layout.byteLength buffer returned) ∧
      (layout.byteLength ≤ buffer.length → ∀ fault,
        (convertItems direction (layout.tokens.toList.map .ok)
          buffer).result ≠ .error fault) := by
  intro outcome
  refine ⟨⟨?_, ?_⟩, ?_, ?_, ?_⟩
  · intro failure
    obtain ⟨fault, refused⟩ := failure
    exact (Layout.short_of_convert_error parsed refused).1
  · intro short
    have refused : outcome = _ := layout.convert_of_short direction short
    rw [refused]
    exact ⟨_, rfl⟩
  · intro fault refused
    obtain ⟨short, faultEquality⟩ :=
      Layout.short_of_convert_error parsed refused
    refine ⟨faultEquality, ?_⟩
    exact congrArg Conversion.buffer (layout.convert_of_short direction short)
  · intro returned succeeded
    have fits := Layout.fits_of_convert_ok succeeded
    obtain ⟨_, _, _, lengthEquality⟩ := Layout.parse_eq_ok_iff.mp parsed
    have bufferEquality : outcome.buffer = returned :=
      (Conversion.result_eq_ok_iff.mp succeeded).2
    have recoded : outcome.buffer = direction.recodeFields _ buffer :=
      congrArg Conversion.buffer
        (layout.convert_of_fits direction parsed fits)
    refine ⟨bufferEquality.symm, ?_⟩
    rw [lengthEquality, ← widthOf_fieldsOf] at fits ⊢
    rw [← bufferEquality, recoded]
    exact converted_recodeFields direction fits
  · intro fits fault refused
    rw [layout.convertItems_of_parse direction parsed fits] at refused
    cases refused

/-- A buffer one byte short of the layout keeps its bytes. -/
theorem layout_convert_all_or_nothing_of_short_buffer :
    Layout.parse "si" = .ok ⟨#[⟨1, .short⟩, ⟨1, .int⟩], 6⟩ ∧
      (Layout.convert .hostToNetwork ⟨#[⟨1, .short⟩, ⟨1, .int⟩], 6⟩
        [1, 2, 3, 4, 5]).result = .error (.bufferTooShort 0 6 5) ∧
      (Layout.convert .hostToNetwork ⟨#[⟨1, .short⟩, ⟨1, .int⟩], 6⟩
        [1, 2, 3, 4, 5]).buffer = [1, 2, 3, 4, 5] := by
  have parsed :
      Layout.parse "si" = .ok ⟨#[⟨1, .short⟩, ⟨1, .int⟩], 6⟩ :=
    Layout.parse_eq_ok_iff.mpr (by decide +kernel)
  obtain ⟨failsIff, failure, _⟩ :=
    layout_convert_all_or_nothing "si" _ parsed .hostToNetwork
      [1, 2, 3, 4, 5]
  obtain ⟨fault, refused⟩ := failsIff.mpr (by decide)
  obtain ⟨rfl, unchanged⟩ := failure fault refused
  exact ⟨parsed, refused, unchanged⟩

end WireOrder
