import WireOrder.Proofs.ConversionOutcome
import WireOrder.Proofs.LayoutConversion
import WireOrder.Record

/-!
# Undoing a conversion

How far a conversion gets depends on the length of the buffer and not on its
bytes, and a conversion keeps the length.  The same conversion in the opposite
direction therefore gets exactly as far, meets the same end, and restores the
fields that were recoded on the way.
-/

namespace WireOrder

theorem convertItems_reverse (direction : Direction) (items : List Item)
    (buffer : Bytes) :
    let outcome := convertItems direction items buffer
    convertItems direction.reverse items outcome.buffer =
      ⟨buffer, outcome.fault⟩ := by
  intro outcome
  have fits := (convertedSpans_eq items buffer.length).2
  have forth : outcome = _ := convertItems_eq direction items buffer
  rw [forth, convertItems_eq, Direction.length_recodeFields,
    direction.recodeFields_reverse_recodeFields fits]

theorem length_buffer_convertItems (direction : Direction)
    (items : List Item) (buffer : Bytes) :
    (convertItems direction items buffer).buffer.length = buffer.length := by
  rw [convertItems_eq]
  exact direction.length_recodeFields _ buffer

theorem convert_reverse (direction : Direction) (format : String)
    (buffer : Bytes) :
    let outcome := convert direction format buffer
    convert direction.reverse format outcome.buffer =
      ⟨buffer, outcome.fault⟩ :=
  convertItems_reverse direction (Tokenizer.ofString format).items buffer

theorem Layout.convert_reverse (direction : Direction) (layout : Layout)
    (buffer : Bytes) :
    let outcome := layout.convert direction buffer
    layout.convert direction.reverse outcome.buffer =
      ⟨buffer, outcome.fault⟩ := by
  intro outcome
  by_cases short : buffer.length < layout.byteLength
  · have refused : outcome = _ := layout.convert_of_short direction short
    rw [refused]
    exact layout.convert_of_short direction.reverse short
  · have walked : outcome =
        convertItems direction (layout.tokens.toList.map .ok) buffer :=
      if_neg short
    have stillFits : ¬ outcome.buffer.length < layout.byteLength := by
      rwa [walked, length_buffer_convertItems]
    rw [Layout.convert, if_neg stillFits, walked]
    exact convertItems_reverse direction _ buffer

/-- Records are restored one by one; the one that fails first fails again in
the same way, so those after it are left alone both times. -/
theorem convertRecords_reverse (direction : Direction) (format : String)
    (records : List Bytes) :
    let outcome := convertRecords direction format records
    convertRecords direction.reverse format outcome.records =
      ⟨records, outcome.fault⟩ := by
  induction records with
  | nil => rfl
  | cons record records ih =>
      have restored := convert_reverse direction format record
      rw [convertRecords_cons]
      -- The second pass stops at this record exactly if the first one did.
      cases stopped : (convert direction format record).fault with
      | some fault =>
          simp only [stopped] at restored ⊢
          rw [convertRecords_cons, restored]
      | none =>
          simp only [stopped] at restored ih ⊢
          rw [convertRecords_cons, restored]
          simp only [ih]

/-- Converting in one direction and then in the other leaves every byte as it
was, and the second conversion ends as the first did, with the same fault if
there was one.  That holds under a format, well formed or not, through a layout
and over a sequence of records.  In particular a copy that was converted
without a fault is converted back into the original. -/
theorem reverse_conversion_restores
    (direction : Direction) (format : String) :
    (∀ buffer,
      let outcome := convert direction format buffer
      convert direction.reverse format outcome.buffer =
        ⟨buffer, outcome.fault⟩) ∧
    (∀ (layout : Layout) buffer,
      let outcome := layout.convert direction buffer
      layout.convert direction.reverse outcome.buffer =
        ⟨buffer, outcome.fault⟩) ∧
    (∀ records,
      let outcome := convertRecords direction format records
      convertRecords direction.reverse format outcome.records =
        ⟨records, outcome.fault⟩) ∧
    ∀ original copied,
      (convert direction format original).result = .ok copied →
        (convert direction.reverse format copied).result = .ok original := by
  refine ⟨?_, ?_, ?_, ?_⟩
  · exact convert_reverse direction format
  · intro layout buffer
    exact layout.convert_reverse direction buffer
  · exact convertRecords_reverse direction format
  · intro original copied succeeded
    obtain ⟨unfaulted, rfl⟩ := Conversion.result_eq_ok_iff.mp succeeded
    rw [convert_reverse direction format original, unfaulted]
    rfl

/-- A copy of two integers and a trailing byte is converted back. -/
theorem reverse_conversion_restores_copy :
    (convert .hostToNetwork "si" [1, 2, 3, 4, 5, 6, 7]).result =
        .ok [2, 1, 6, 5, 4, 3, 7] ∧
      (convert .networkToHost "si" [2, 1, 6, 5, 4, 3, 7]).result =
        .ok [1, 2, 3, 4, 5, 6, 7] := by
  have succeeded :
      (convert .hostToNetwork "si" [1, 2, 3, 4, 5, 6, 7]).result =
        .ok [2, 1, 6, 5, 4, 3, 7] :=
    Conversion.result_eq_ok_iff.mpr (by decide +kernel)
  obtain ⟨_, _, _, copies⟩ :=
    reverse_conversion_restores .hostToNetwork "si"
  exact ⟨succeeded, copies _ _ succeeded⟩

end WireOrder
