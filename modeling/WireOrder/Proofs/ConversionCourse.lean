import WireOrder.Proofs.WalkInvariant

/-!
# The course of a conversion

Which fields a conversion recodes and how it ends is settled by its items and
the length of its buffer: it comes to the first field that ends beyond the
buffer, or else to the first fault among the items.  Neither the bytes nor the
direction has any influence on that.
-/

namespace WireOrder

/-- The first of some fields, laid out from the beginning, that ends beyond the
given length. -/
def firstOverrun? (length : Nat) (fields : List Field) : Option Span :=
  (place 0 fields).find? fun span => decide (length < span.finish)

section Fields

variable {length : Nat} {first before : List Field} {field : Field}

theorem finish_le_of_fits (fits : widthOf first ≤ length) :
    ∀ span ∈ place 0 first, span.finish ≤ length :=
  (forall_finish_le_iff (Nat.zero_le length)).mpr (by omega)

theorem fitting_append (fits : widthOf first ≤ length)
    (second : List Field) :
    fitting length (first ++ second) =
      place 0 first ++
        (place (widthOf first) second).takeWhile
          fun span => decide (span.finish ≤ length) := by
  rw [fitting, place_append, Nat.zero_add]
  apply List.takeWhile_append_of_pos
  intro span member
  exact decide_eq_true (finish_le_of_fits fits span member)

theorem firstOverrun?_append (fits : widthOf first ≤ length)
    (second : List Field) :
    firstOverrun? length (first ++ second) =
      (place (widthOf first) second).find?
        fun span => decide (length < span.finish) := by
  have absent :
      ((place 0 first).find? fun span => decide (length < span.finish)) =
        none := by
    apply List.find?_eq_none.mpr
    intro span member overrun
    exact Nat.not_le_of_lt (of_decide_eq_true overrun)
      (finish_le_of_fits fits span member)
  rw [firstOverrun?, place_append, Nat.zero_add, List.find?_append, absent,
    Option.none_or]

theorem fitting_of_fits (fits : widthOf first ≤ length) :
    fitting length first = place 0 first := by
  have whole := fitting_append fits []
  rwa [List.append_nil, place, List.takeWhile_nil, List.append_nil] at whole

theorem firstOverrun?_of_fits (fits : widthOf first ≤ length) :
    firstOverrun? length first = none := by
  have whole := firstOverrun?_append fits []
  rwa [List.append_nil, place, List.find?_nil] at whole

theorem fitting_of_overrun (room : widthOf before ≤ length)
    (overrun : length < widthOf before + field.width)
    (after : List Field) :
    fitting length (before ++ field :: after) = place 0 before := by
  have beyond : ¬ (Span.mk (widthOf before) field).finish ≤ length :=
    Nat.not_le_of_lt overrun
  have stopped :
      ((place (widthOf before) (field :: after)).takeWhile
        fun span => decide (span.finish ≤ length)) = [] :=
    List.takeWhile_cons_of_neg (mt of_decide_eq_true beyond)
  rw [fitting_append room, stopped, List.append_nil]

theorem firstOverrun?_of_overrun (room : widthOf before ≤ length)
    (overrun : length < widthOf before + field.width)
    (after : List Field) :
    firstOverrun? length (before ++ field :: after) =
      some ⟨widthOf before, field⟩ := by
  rw [firstOverrun?_append room, place]
  exact List.find?_cons_of_pos (decide_eq_true overrun)

theorem exists_split_of_firstOverrun? {fields : List Field} {span : Span}
    (found : firstOverrun? length fields = some span) :
    ∃ before after, fields = before ++ span.field :: after ∧
      span.offset = widthOf before ∧ widthOf before ≤ length ∧
      length < widthOf before + span.field.width := by
  rcases fits_or_overruns length fields with
    fits | ⟨before, field, after, rfl, room, overrun⟩
  · rw [firstOverrun?_of_fits fits] at found
    cases found
  · rw [firstOverrun?_of_overrun room overrun] at found
    cases found
    exact ⟨before, after, rfl, rfl, room, overrun⟩

end Fields

/-- The fields that a conversion along the items converts in a buffer of the
given length. -/
def convertedSpans (items : List Item) (length : Nat) : List Span :=
  fitting length (fieldsOf (leading items))

/-- The kinds of the fields converted, in order. -/
def convertedFields (items : List Item) (length : Nat) : List Field :=
  (convertedSpans items length).map Span.field

/-- How a conversion along the items ends in a buffer of the given length. -/
def ending (items : List Item) (length : Nat) : Option Fault :=
  match firstOverrun? length (fieldsOf (leading items)) with
  | some span => some (.bufferTooShort span.offset span.field.width length)
  | none => firstFault? items

section Items

variable {items : List Item} {length : Nat}

theorem exists_overrun (short : length < lengthOf (leading items)) :
    ∃ before field after,
      fieldsOf (leading items) = before ++ field :: after ∧
        widthOf before ≤ length ∧
        length < widthOf before + field.width := by
  rw [← widthOf_fieldsOf] at short
  rcases fits_or_overruns length (fieldsOf (leading items)) with
    fits | overruns
  · exact absurd fits (Nat.not_le_of_gt short)
  · exact overruns

theorem course_of_fits (fits : lengthOf (leading items) ≤ length) :
    convertedFields items length = fieldsOf (leading items) ∧
      ending items length = firstFault? items := by
  rw [← widthOf_fieldsOf] at fits
  constructor
  · rw [convertedFields, convertedSpans, fitting_of_fits fits,
      map_field_place]
  · rw [ending, firstOverrun?_of_fits fits]

theorem course_of_overrun {before after : List Field} {field : Field}
    (split : fieldsOf (leading items) = before ++ field :: after)
    (room : widthOf before ≤ length)
    (overrun : length < widthOf before + field.width) :
    convertedFields items length = before ∧
      ending items length =
        some (.bufferTooShort (widthOf before) field.width length) := by
  constructor
  · rw [convertedFields, convertedSpans, split,
      fitting_of_overrun room overrun, map_field_place]
  · rw [ending, split, firstOverrun?_of_overrun room overrun]

theorem convertedSpans_eq (items : List Item) (length : Nat) :
    convertedSpans items length =
        place 0 (convertedFields items length) ∧
      widthOf (convertedFields items length) ≤ length := by
  unfold convertedFields convertedSpans
  rcases fits_or_overruns length (fieldsOf (leading items)) with
    fits | ⟨before, field, after, split, room, overrun⟩
  · rw [fitting_of_fits fits, map_field_place]
    exact ⟨rfl, fits⟩
  · rw [split, fitting_of_overrun room overrun, map_field_place]
    exact ⟨rfl, room⟩

/-- A conversion runs its course. -/
theorem convertItems_eq (direction : Direction) (items : List Item)
    (buffer : Bytes) :
    convertItems direction items buffer =
      ⟨direction.recodeFields (convertedFields items buffer.length) buffer,
        ending items buffer.length⟩ := by
  by_cases fits : lengthOf (leading items) ≤ buffer.length
  · obtain ⟨reached, ended⟩ := course_of_fits fits
    rw [reached, ended]
    exact convertItems_of_fits direction fits
  · obtain ⟨before, field, after, split, room, overrun⟩ :=
      exists_overrun (Nat.lt_of_not_le fits)
    obtain ⟨reached, ended⟩ := course_of_overrun split room overrun
    rw [reached, ended]
    exact convertItems_of_overrun direction split room overrun

end Items

theorem convert_eq (direction : Direction) (format : String)
    (buffer : Bytes) :
    convert direction format buffer =
      ⟨direction.recodeFields
          (convertedFields (Tokenizer.ofString format).items buffer.length)
          buffer,
        ending (Tokenizer.ofString format).items buffer.length⟩ :=
  convertItems_eq direction (Tokenizer.ofString format).items buffer

end WireOrder
