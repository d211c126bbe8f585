import WireOrder.Conversion
import WireOrder.Proofs.FieldRecoding
import WireOrder.Proofs.LeadingItems

/-!
# What a walk has done to its buffer

A walk that has crossed a sequence of fields stands where they end, has recoded
them behind it and nothing ahead of it.  Every step keeps that invariant, so a
walk over any items comes to the fields of the tokens before the first fault:
either they all fit, and the walk ends as the items do, or it stops before the
first field that overruns the buffer.

These two outcomes, `convertItems_of_fits` and `convertItems_of_overrun`, are
all that is needed of the walk from here on.
-/

namespace WireOrder

namespace Walk

/-- Cross a sequence of fields up to the first that does not fit. -/
def crossAll (direction : Direction) :
    List Field → Walk → Walk × Option Fault
  | [], walk => (walk, none)
  | field :: fields, walk =>
      match walk.cross direction field with
      | .error fault => (walk, some fault)
      | .ok reached => crossAll direction fields reached

theorem crossAll_append (direction : Direction)
    (first second : List Field) (walk : Walk) :
    crossAll direction (first ++ second) walk =
      match crossAll direction first walk with
      | (reached, some fault) => (reached, some fault)
      | (reached, none) => crossAll direction second reached := by
  induction first generalizing walk with
  | nil => rfl
  | cons field first ih =>
      cases crossed : walk.cross direction field with
      | error fault => simp [crossAll, crossed]
      | ok reached => simp [crossAll, crossed, ih]

theorem crossMany_eq_crossAll (direction : Direction) (field : Field)
    (count : Nat) (walk : Walk) :
    crossMany direction field count walk =
      crossAll direction (List.replicate count field) walk := by
  induction count generalizing walk with
  | zero => rfl
  | succ count ih =>
      rw [List.replicate_succ]
      cases crossed : walk.cross direction field with
      | error fault => simp [crossMany, crossAll, crossed]
      | ok reached => simp [crossMany, crossAll, crossed, ih]

/-- Only the fields of the tokens before the first fault are crossed, and that
fault is met if none of these fields stops the walk. -/
theorem follow_eq_crossAll (direction : Direction) (walk : Walk)
    (items : List Item) :
    (walk.follow direction items).state =
        (crossAll direction (fieldsOf (leading items)) walk).1 ∧
      (walk.follow direction items).fault =
        (crossAll direction (fieldsOf (leading items)) walk).2.or
          (firstFault? items) := by
  induction items generalizing walk with
  | nil => exact ⟨rfl, rfl⟩
  | cons item items ih =>
      cases item with
      | error fault => exact ⟨rfl, rfl⟩
      | ok token =>
          have fieldsEquality :
              fieldsOf (leading (.ok token :: items)) =
                List.replicate token.count token.field ++
                  fieldsOf (leading items) := rfl
          rw [fieldsEquality, crossAll_append, ← crossMany_eq_crossAll]
          simp only [follow, takeIn, crossToken]
          cases crossMany direction token.field token.count walk with
          | mk reached refusal =>
              cases refusal with
              | some fault => exact ⟨rfl, rfl⟩
              | none => exact ih reached

/-- The walk has come through `buffer` across exactly the given fields. -/
structure HasCrossed (direction : Direction) (buffer : Bytes)
    (fields : List Field) (walk : Walk) : Prop where
  offset_eq : walk.offset = widthOf fields
  offset_le : walk.offset ≤ buffer.length
  behind_eq : walk.behind.reverse =
    direction.recodeFields fields (buffer.take walk.offset)
  ahead_eq : walk.ahead = buffer.drop walk.offset

theorem hasCrossed_start (direction : Direction) (buffer : Bytes) :
    HasCrossed direction buffer [] (start buffer) where
  offset_eq := rfl
  offset_le := Nat.zero_le _
  behind_eq := rfl
  ahead_eq := rfl

namespace HasCrossed

variable {direction : Direction} {buffer : Bytes} {fields : List Field}
  {walk : Walk}

theorem length_ahead (crossed : HasCrossed direction buffer fields walk) :
    walk.ahead.length = buffer.length - walk.offset := by
  rw [crossed.ahead_eq, List.length_drop]

theorem buffer_eq (crossed : HasCrossed direction buffer fields walk) :
    walk.buffer = direction.recodeFields fields buffer := by
  have fits : widthOf fields ≤ buffer.length :=
    crossed.offset_eq ▸ crossed.offset_le
  rw [Walk.buffer, crossed.behind_eq, crossed.ahead_eq, crossed.offset_eq,
    direction.recodeFields_of_fits fits]

theorem length_buffer (crossed : HasCrossed direction buffer fields walk) :
    walk.buffer.length = buffer.length := by
  rw [crossed.buffer_eq, Direction.length_recodeFields]

theorem cross (crossed : HasCrossed direction buffer fields walk)
    (field : Field) (fits : walk.offset + field.width ≤ buffer.length) :
    ∃ reached, walk.cross direction field = .ok reached ∧
      HasCrossed direction buffer (fields ++ [field]) reached := by
  have aheadLength := crossed.length_ahead
  have within : field.width ≤ walk.ahead.length := by omega
  refine ⟨_, cross_of_fits within, ?_, fits, ?_, ?_⟩
  · simp [crossed.offset_eq, widthOf_append, widthOf]
  · have frontLength :
        (buffer.take walk.offset).length = widthOf fields := by
      rw [List.length_take, ← crossed.offset_eq]
      exact Nat.min_eq_left crossed.offset_le
    have chunkLength :
        ((buffer.drop walk.offset).take field.width).length =
          field.width := by
      rw [← crossed.ahead_eq, List.length_take]
      exact Nat.min_eq_left within
    -- The bytes behind are kept nearest first, hence the two reversals.
    rw [List.reverse_append, List.reverse_reverse, crossed.behind_eq,
      crossed.ahead_eq, List.take_add,
      Direction.recodeFields_append frontLength,
      direction.recodeFields_singleton chunkLength]
  · rw [crossed.ahead_eq, List.drop_drop]

theorem cross_overrun (crossed : HasCrossed direction buffer fields walk)
    {field : Field} (short : buffer.length < widthOf fields + field.width) :
    walk.cross direction field =
      .error (.bufferTooShort (widthOf fields) field.width
        buffer.length) := by
  have aheadLength := crossed.length_ahead
  have offsetEquality := crossed.offset_eq
  have offsetWithin := crossed.offset_le
  rw [cross_of_short (by omega), crossed.length_buffer, offsetEquality]

theorem crossAll (crossed : HasCrossed direction buffer fields walk)
    (later : List Field)
    (fits : walk.offset + widthOf later ≤ buffer.length) :
    ∃ reached, Walk.crossAll direction later walk = (reached, none) ∧
      HasCrossed direction buffer (fields ++ later) reached := by
  induction later generalizing walk fields with
  | nil => exact ⟨walk, rfl, by rwa [List.append_nil]⟩
  | cons field later ih =>
      rw [widthOf] at fits
      obtain ⟨middle, step, middleCrossed⟩ :=
        crossed.cross field (by omega)
      have middleOffset : middle.offset = walk.offset + field.width := by
        rw [middleCrossed.offset_eq, crossed.offset_eq]
        simp [widthOf_append, widthOf]
      obtain ⟨reached, run, reachedCrossed⟩ :=
        ih middleCrossed (by omega)
      refine ⟨reached, ?_, ?_⟩
      · simp only [Walk.crossAll, step, run]
      · rwa [List.append_assoc] at reachedCrossed

end HasCrossed

end Walk

private theorem convertItems_of_crossAll
    {direction : Direction} {items : List Item} {buffer : Bytes}
    {fields : List Field} {reached : Walk} {refusal : Option Fault}
    (run : Walk.crossAll direction (fieldsOf (leading items))
      (Walk.start buffer) = (reached, refusal))
    (crossed : Walk.HasCrossed direction buffer fields reached) :
    convertItems direction items buffer =
      ⟨direction.recodeFields fields buffer,
        refusal.or (firstFault? items)⟩ := by
  obtain ⟨stateEquality, faultEquality⟩ :=
    Walk.follow_eq_crossAll direction (Walk.start buffer) items
  rw [run] at stateEquality faultEquality
  rw [convertItems, Conversion.ofIntake, stateEquality, faultEquality,
    crossed.buffer_eq]

/-- A conversion whose tokens all fit recodes their fields and ends as the
items do. -/
theorem convertItems_of_fits
    (direction : Direction) {items : List Item} {buffer : Bytes}
    (fits : lengthOf (leading items) ≤ buffer.length) :
    convertItems direction items buffer =
      ⟨direction.recodeFields (fieldsOf (leading items)) buffer,
        firstFault? items⟩ := by
  have started := Walk.hasCrossed_start direction buffer
  have room :
      (Walk.start buffer).offset + widthOf (fieldsOf (leading items)) ≤
        buffer.length := by
    rw [widthOf_fieldsOf]
    simpa [Walk.start] using fits
  obtain ⟨reached, run, crossed⟩ := started.crossAll _ room
  exact convertItems_of_crossAll run crossed

/-- A conversion that comes to a field beyond the end of the buffer recodes
the fields before it, whatever the items after it are. -/
theorem convertItems_of_overrun
    (direction : Direction) {items : List Item} {buffer : Bytes}
    {before after : List Field} {field : Field}
    (split : fieldsOf (leading items) = before ++ field :: after)
    (room : widthOf before ≤ buffer.length)
    (short : buffer.length < widthOf before + field.width) :
    convertItems direction items buffer =
      ⟨direction.recodeFields before buffer,
        some (.bufferTooShort (widthOf before) field.width
          buffer.length)⟩ := by
  have started := Walk.hasCrossed_start direction buffer
  have roomAhead :
      (Walk.start buffer).offset + widthOf before ≤ buffer.length := by
    simpa [Walk.start] using room
  obtain ⟨reached, run, crossed⟩ := started.crossAll before roomAhead
  have stopped :
      reached.cross direction field =
        .error (.bufferTooShort (widthOf before) field.width
          buffer.length) :=
    crossed.cross_overrun short
  have wholeRun :
      Walk.crossAll direction (fieldsOf (leading items))
          (Walk.start buffer) =
        (reached, some (.bufferTooShort (widthOf before) field.width
          buffer.length)) := by
    rw [split, Walk.crossAll_append, run]
    simp only [Walk.crossAll, stopped]
  exact convertItems_of_crossAll wholeRun crossed

end WireOrder
