import WireOrder.Proofs.ConversionConcatenation
import WireOrder.Proofs.LayoutLength
import WireOrder.Record

/-!
# Records of one size in sequence

How a conversion ends depends on the length of its buffer alone, so records of
one size all meet the same end.  A sequence of them is stopped at the first
record if it is stopped at all.

If the records have exactly the length of the format, converting them one by
one is the same as converting all their bytes at once under the format written
as many times as there are records.
-/

namespace WireOrder

section Sequence

variable {direction : Direction} {format : String} {records : List Bytes}

theorem fault_convert_of_length_eq {first second : Bytes}
    (sameLength : first.length = second.length) :
    (convert direction format first).fault =
      (convert direction format second).fault := by
  rw [convert_eq, convert_eq, sameLength]

theorem convertRecords_of_unfaulted
    (unfaulted : ∀ record ∈ records,
      (convert direction format record).fault = none) :
    convertRecords direction format records =
      ⟨records.map fun record => (convert direction format record).buffer,
        none⟩ := by
  induction records with
  | nil => rfl
  | cons record records ih =>
      obtain ⟨goesThrough, laterUnfaulted⟩ :=
        List.forall_mem_cons.mp unfaulted
      simp only [convertRecords_cons, goesThrough, ih laterUnfaulted,
        List.map_cons]

end Sequence

/-- The first record decides about all records of its size.  A sequence without
records goes through under every format.  If the first record fails, it is left
as its conversion alone leaves it, and no other record is touched; otherwise
no record fails and each is converted as it would be alone. -/
theorem first_record_decides (direction : Direction) (format : String) :
    convertRecords direction format [] = ⟨[], none⟩ ∧
      ∀ (first : Bytes) (later : List Bytes),
        (∀ record ∈ later, record.length = first.length) →
        (∀ fault, (convert direction format first).fault = some fault →
          convertRecords direction format (first :: later) =
            ⟨(convert direction format first).buffer :: later,
              some fault⟩) ∧
        ((convert direction format first).fault = none →
          convertRecords direction format (first :: later) =
            ⟨(first :: later).map fun record =>
              (convert direction format record).buffer, none⟩ ∧
          ∀ record ∈ first :: later,
            (convert direction format record).fault = none) := by
  refine ⟨convertRecords_nil direction format, ?_⟩
  intro first later sameSize
  constructor
  · intro fault failed
    simp only [convertRecords_cons, failed]
  · intro goesThrough
    have unfaulted : ∀ record ∈ first :: later,
        (convert direction format record).fault = none := by
      intro record member
      rcases List.mem_cons.mp member with rfl | late
      · exact goesThrough
      · exact (fault_convert_of_length_eq (sameSize record late)).trans
          goesThrough
    exact ⟨convertRecords_of_unfaulted unfaulted, unfaulted⟩

/-- Three bytes hold one short integer and not two. -/
theorem first_record_decides_in_three_bytes :
    (∀ record ∈ ([[4, 5, 6]] : List Bytes),
        record.length = ([1, 2, 3] : Bytes).length) ∧
      convertRecords .hostToNetwork "2s" [[1, 2, 3], [4, 5, 6]] =
        ⟨[[2, 1, 3], [4, 5, 6]], some (.bufferTooShort 2 2 3)⟩ ∧
      convertRecords .hostToNetwork "s" [[1, 2, 3], [4, 5, 6]] =
        ⟨[[2, 1, 3], [5, 4, 6]], none⟩ := by
  have sameSize : ∀ record ∈ ([[4, 5, 6]] : List Bytes),
      record.length = ([1, 2, 3] : Bytes).length := by decide
  obtain ⟨_, twoIntegers⟩ := first_record_decides .hostToNetwork "2s"
  obtain ⟨_, oneInteger⟩ := first_record_decides .hostToNetwork "s"
  refine ⟨sameSize, ?_, ?_⟩
  · have failed : (convert .hostToNetwork "2s" [1, 2, 3]).fault =
        some (.bufferTooShort 2 2 3) := by decide +kernel
    exact ((twoIntegers _ _ sameSize).1 _ failed).trans (by decide +kernel)
  · exact ((oneInteger _ _ sameSize).2 (by decide +kernel)).1.trans
      (by decide +kernel)

section Flattened

variable {format : String} {entries : List Entry} {records : List Bytes}

theorem ConsistsOf.convert_eq (cut : ConsistsOf format entries)
    (direction : Direction) {buffer : Bytes}
    (fits : lengthOf (entries.map Entry.token) ≤ buffer.length) :
    convert direction format buffer =
      ⟨direction.recodeFields (fieldsOf (entries.map Entry.token)) buffer,
        none⟩ := by
  rw [convert_eq_convertItems, cut.items_eq]
  rw [← leading_map_ok (entries.map Entry.token)] at fits
  rw [convertItems_of_fits direction fits, leading_map_ok,
    firstFault?_map_ok]

/-- Under a format written once for each record, the fields of every record
are recoded in their place. -/
theorem convert_join_replicate (cut : ConsistsOf format entries)
    (direction : Direction)
    (sized : ∀ record ∈ records,
      record.length = lengthOf (entries.map Entry.token)) :
    convert direction
        (String.join (List.replicate records.length format))
        records.flatten =
      ⟨(records.map (direction.recodeFields
          (fieldsOf (entries.map Entry.token)))).flatten, none⟩ := by
  induction records with
  | nil =>
      have nothing : (Tokenizer.ofString "").items = [] :=
        Tokenizer.items_of_rest_nil "" 0
      show convert direction "" [] = ⟨[], none⟩
      rw [convert_eq_convertItems, nothing]
      rfl
  | cons record records ih =>
      obtain ⟨recordSized, laterSized⟩ := List.forall_mem_cons.mp sized
      have fits : lengthOf (entries.map Entry.token) ≤
          (record ++ records.flatten).length := by
        rw [List.length_append, recordSized]
        exact Nat.le_add_right _ _
      have repeated :
          String.join (List.replicate (record :: records).length format) =
            format ++ String.join (List.replicate records.length format) :=
        String.join_cons
      rw [repeated, List.flatten_cons, convert_append_eq direction cut,
        convertItems_append_of_fits direction fits
          fun _ => blamesFormat_of_firstFault?,
        ← convert_eq_convertItems, List.take_left' recordSized,
        List.drop_left' recordSized, ih laterSized]
      rfl

end Flattened

/-- Records of exactly the length of a format are converted one by one without
a fault, and keep their size.  The bytes of all records together are then what
a single conversion makes of the original bytes under the format written once
for each record, which goes through as well. -/
theorem records_convert_as_one_buffer
    (direction : Direction) (format : String) (size : Nat)
    (measured : formatLength format = .ok size) (records : List Bytes)
    (sized : ∀ record ∈ records, record.length = size) :
    (convertRecords direction format records).fault = none ∧
      (convert direction
          (String.join (List.replicate records.length format))
          records.flatten).result =
        .ok (convertRecords direction format records).records.flatten ∧
      (convertRecords direction format records).records.map List.length =
        records.map List.length := by
  obtain ⟨layout, parsed, rfl⟩ := exists_parse_of_formatLength_ok measured
  obtain ⟨entries, cut, _, measures, _⟩ :=
    Layout.parse_eq_ok_iff_consistsOf.mp parsed
  have exactLength : ∀ record ∈ records,
      record.length = lengthOf (entries.map Entry.token) := by
    intro record member
    exact (sized record member).trans measures
  have alone : ∀ record ∈ records,
      convert direction format record =
        ⟨direction.recodeFields (fieldsOf (entries.map Entry.token)) record,
          none⟩ := by
    intro record member
    apply cut.convert_eq direction
    exact Nat.le_of_eq (exactLength record member).symm
  have unfaulted : ∀ record ∈ records,
      (convert direction format record).fault = none := by
    intro record member
    rw [alone record member]
  have oneByOne : convertRecords direction format records =
      ⟨records.map (direction.recodeFields
        (fieldsOf (entries.map Entry.token))), none⟩ := by
    rw [convertRecords_of_unfaulted unfaulted]
    apply congrArg (BatchConversion.mk · none)
    apply List.map_congr_left
    intro record member
    rw [alone record member]
  rw [oneByOne, convert_join_replicate cut direction exactLength]
  refine ⟨rfl, rfl, ?_⟩
  rw [List.map_map]
  apply List.map_congr_left
  intro record _
  exact direction.length_recodeFields _ record

/-- Two records of a byte and a short integer. -/
theorem records_convert_as_one_buffer_of_two_records :
    formatLength "bs" = .ok 3 ∧
      (∀ record ∈ ([[1, 2, 3], [4, 5, 6]] : List Bytes),
        record.length = 3) ∧
      (convert .hostToNetwork "bsbs" [1, 2, 3, 4, 5, 6]).result =
        .ok [1, 3, 2, 4, 6, 5] := by
  have parsed : Layout.parse "bs" = .ok ⟨#[⟨1, .byte⟩, ⟨1, .short⟩], 3⟩ :=
    Layout.parse_eq_ok_iff.mpr (by decide +kernel)
  have measured : formatLength "bs" = .ok 3 := formatLength_of_parse_ok parsed
  have sized : ∀ record ∈ ([[1, 2, 3], [4, 5, 6]] : List Bytes),
      record.length = 3 := by decide
  obtain ⟨_, together, _⟩ :=
    records_convert_as_one_buffer .hostToNetwork "bs" 3 measured _ sized
  refine ⟨measured, sized, together.trans (congrArg Except.ok ?_)⟩
  decide +kernel

end WireOrder
