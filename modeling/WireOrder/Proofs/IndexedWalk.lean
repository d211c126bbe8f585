import WireOrder.Proofs.WalkSteps

/-!
# Crossing fields by their indices

A walk keeps the bytes behind it and those ahead of it apart, and counts its
offset without a bound.  `IndexedWalk` crosses a field in a buffer that stays
in one piece: it computes where the field ends, which has to be a size, takes
out the bytes up to there, recodes them and puts them back.  Two things could go
wrong.  The bytes taken out could be fewer or more than the field takes, and the
offset behind the field could be out of range.  An `IndexedWalk` has no outcome
then.

The main statement says that neither happens at any stage of a conversion,
whatever items it follows.
-/

namespace WireOrder

/-- A walk over a buffer that stays in one piece. -/
structure IndexedWalk where
  buffer : Bytes
  offset : Nat

/-- The same place in the buffer as a whole. -/
def Walk.indexed (walk : Walk) : IndexedWalk :=
  ⟨walk.buffer, walk.offset⟩

namespace IndexedWalk

/-- The bytes of the next field, unless its end is no size or is beyond the end
of the buffer. -/
def chunk? (walk : IndexedWalk) (field : Field) : Option Bytes :=
  (size? (walk.offset + field.width)).bind fun finish =>
    if finish ≤ walk.buffer.length then
      some ((walk.buffer.take finish).drop walk.offset)
    else
      none

/-- Recode a chunk, unless it is not exactly as wide as the field. -/
def recode? (direction : Direction) (field : Field) (chunk : Bytes) :
    Option Bytes :=
  if chunk.length = field.width then some (direction.recode chunk) else none

/-- Convert the next field and step over it.  There is no outcome if the chunk
cannot be recoded as the field or if the offset behind it is no size. -/
def cross (direction : Direction) (field : Field) (walk : IndexedWalk) :
    Option (Except Fault IndexedWalk) :=
  match walk.chunk? field with
  | none =>
      some (.error
        (.bufferTooShort walk.offset field.width walk.buffer.length))
  | some chunk => do
      let recoded ← recode? direction field chunk
      let offset ← size? (walk.offset + field.width)
      some (.ok ⟨walk.buffer.take walk.offset ++
        (recoded ++ walk.buffer.drop (walk.offset + chunk.length)), offset⟩)

theorem cross_of_chunk (direction : Direction) {field : Field}
    {walk : IndexedWalk} {chunk : Bytes}
    (found : walk.chunk? field = some chunk)
    (chunkLength : chunk.length = field.width)
    (inRange : size? (walk.offset + field.width) =
      some (walk.offset + field.width)) :
    walk.cross direction field =
      some (.ok ⟨walk.buffer.take walk.offset ++
        (direction.recode chunk ++
          walk.buffer.drop (walk.offset + field.width)),
        walk.offset + field.width⟩) := by
  simp [cross, found, recode?, chunkLength, inRange]

end IndexedWalk

namespace Walk.HasCrossed

variable {direction : Direction} {buffer : Bytes} {fields : List Field}
  {walk : Walk}

theorem size?_finish (crossed : HasCrossed direction buffer fields walk)
    (bounded : buffer.length < bufferLimit) (field : Field) :
    size? (walk.offset + field.width) = some (walk.offset + field.width) := by
  have within := crossed.offset_le
  have narrow := field.width_le_eight
  have small : walk.offset + field.width < sizeLimit := by
    unfold bufferLimit at bounded
    unfold sizeLimit
    omega
  exact if_pos small

theorem length_behind (crossed : HasCrossed direction buffer fields walk) :
    walk.behind.reverse.length = walk.offset := by
  rw [crossed.behind_eq, Direction.length_recodeFields, List.length_take]
  exact Nat.min_eq_left crossed.offset_le

theorem chunk?_indexed (crossed : HasCrossed direction buffer fields walk)
    (bounded : buffer.length < bufferLimit) (field : Field) :
    walk.indexed.chunk? field =
      if field.width ≤ walk.ahead.length then
        some (walk.ahead.take field.width)
      else
        none := by
  have behindLength := crossed.length_behind
  have room : walk.offset + field.width ≤ walk.buffer.length ↔
      field.width ≤ walk.ahead.length := by
    rw [Walk.buffer, List.length_append, behindLength]
    exact Nat.add_le_add_iff_left
  have chunk :
      (walk.buffer.take (walk.offset + field.width)).drop walk.offset =
        walk.ahead.take field.width := by
    rw [List.drop_take, Nat.add_sub_cancel_left, Walk.buffer,
      List.drop_left' behindLength]
  simp only [IndexedWalk.chunk?, Walk.indexed, Option.bind_some,
    crossed.size?_finish bounded field, room, chunk]

theorem length_chunk (crossed : HasCrossed direction buffer fields walk)
    (bounded : buffer.length < bufferLimit) {field : Field} {chunk : Bytes}
    (found : walk.indexed.chunk? field = some chunk) :
    chunk.length = field.width := by
  rw [crossed.chunk?_indexed bounded] at found
  split at found
  · rename_i room
    cases found
    exact List.length_take_of_le room
  · cases found

/-- A field is crossed in the buffer as a whole as it is crossed in its two
parts. -/
theorem cross_indexed (crossed : HasCrossed direction buffer fields walk)
    (bounded : buffer.length < bufferLimit) (field : Field) :
    walk.indexed.cross direction field =
      some ((walk.cross direction field).map Walk.indexed) := by
  have found := crossed.chunk?_indexed bounded field
  by_cases fits : field.width ≤ walk.ahead.length
  · rw [if_pos fits] at found
    have behindLength := crossed.length_behind
    have front : walk.buffer.take walk.offset = walk.behind.reverse :=
      List.take_left' behindLength
    have rest : walk.buffer.drop (walk.offset + field.width) =
        walk.ahead.drop field.width := by
      rw [← List.drop_drop, Walk.buffer, List.drop_left' behindLength]
    have joined : (Walk.mk
          ((direction.recode (walk.ahead.take field.width)).reverse ++
            walk.behind)
          (walk.offset + field.width)
          (walk.ahead.drop field.width)).indexed =
        ⟨walk.buffer.take walk.offset ++
          (direction.recode (walk.ahead.take field.width) ++
            walk.buffer.drop (walk.offset + field.width)),
          walk.offset + field.width⟩ := by
      rw [front, rest]
      simp [Walk.indexed, Walk.buffer]
    rw [cross_of_fits fits]
    calc
      walk.indexed.cross direction field = _ :=
        IndexedWalk.cross_of_chunk direction found
          (crossed.length_chunk bounded found)
          (crossed.size?_finish bounded field)
      _ = some (.ok _) :=
        congrArg (fun whole => some (Except.ok whole)) joined.symm
  · rw [if_neg fits] at found
    rw [cross_of_short (Nat.lt_of_not_le fits), IndexedWalk.cross, found]
    rfl

end Walk.HasCrossed

/-- Whatever the items are and however large their counts, a conversion of a
buffer of a possible length comes to a stage where it ends with its outcome.
At every stage on the way the offset is the total width of the fields crossed
so far and does not leave the buffer, and these fields tile the bytes up to the
offset, so there are at most as many as there are bytes.  Wherever a field is
about to be crossed the end of it is a size, the chunk found for it has its
width, and crossing it in the buffer as a whole never gives up. -/
theorem crossed_fields_tile_buffer (direction : Direction)
    (items : List Item) (buffer : Bytes)
    (bounded : buffer.length < bufferLimit) :
    (∃ stage, Stage.Reached direction items buffer stage ∧
      Stage.Ends direction stage
        (convertItems direction items buffer).fault ∧
      stage.walk.buffer = (convertItems direction items buffer).buffer) ∧
    ∀ stage, Stage.Reached direction items buffer stage →
      stage.walk.offset = widthOf (stage.crossed.map Span.field) ∧
      stage.walk.offset ≤ buffer.length ∧
      Tiles stage.crossed stage.walk.offset ∧
      stage.crossed.length ≤ buffer.length ∧
      ∀ field left, stage.hand = some ⟨left + 1, field⟩ →
        size? (stage.walk.offset + field.width) =
          some (stage.walk.offset + field.width) ∧
        (∀ chunk, stage.walk.indexed.chunk? field = some chunk →
          chunk.length = field.width) ∧
        stage.walk.indexed.cross direction field =
          some ((stage.walk.cross direction field).map Walk.indexed) := by
  constructor
  · exact Stage.exists_reached_ends direction items buffer
  · intro stage reached
    have sound := reached.sound
    have hasCrossed := sound.hasCrossed
    refine ⟨hasCrossed.offset_eq, hasCrossed.offset_le, sound.tiles,
      sound.length_crossed_le, ?_⟩
    intro field left inHand
    refine ⟨hasCrossed.size?_finish bounded field, ?_,
      hasCrossed.cross_indexed bounded field⟩
    intro chunk found
    exact hasCrossed.length_chunk bounded found

/-- Five bytes have room for two of the many short integers that the second
token asks for. -/
theorem crossed_fields_tile_buffer_under_largest_count :
    ([1, 2, 3, 4, 5] : Bytes).length < bufferLimit ∧
      ∃ stage,
        Stage.Reached .hostToNetwork
          [.ok ⟨0, .long⟩, .ok ⟨4294967295, .short⟩] [1, 2, 3, 4, 5] stage ∧
        stage.hand = some ⟨4294967293, .short⟩ ∧
        stage.crossed = [⟨0, .short⟩, ⟨2, .short⟩] ∧
        Tiles stage.crossed 4 ∧
        stage.walk.indexed.cross .hostToNetwork .short =
          some (.error (.bufferTooShort 4 2 5)) := by
  have bounded : ([1, 2, 3, 4, 5] : Bytes).length < bufferLimit := by decide
  have first : (Walk.start [1, 2, 3, 4, 5]).cross .hostToNetwork .short =
      .ok ⟨[1, 2], 2, [3, 4, 5]⟩ := rfl
  have second : (Walk.mk [1, 2] 2 [3, 4, 5]).cross .hostToNetwork .short =
      .ok ⟨[3, 4, 1, 2], 4, [5]⟩ := rfl
  have inHand : Stage.Reached .hostToNetwork
      [.ok ⟨0, .long⟩, .ok ⟨4294967295, .short⟩] [1, 2, 3, 4, 5]
      ⟨Walk.start [1, 2, 3, 4, 5], some ⟨4294967294 + 1, .short⟩, [], []⟩ :=
    ((Stage.Reached.start.next .takeUp).next .layDown).next .takeUp
  have reached := (inHand.next (.cross first)).next (.cross second)
  obtain ⟨_, everywhere⟩ :=
    crossed_fields_tile_buffer .hostToNetwork _ _ bounded
  obtain ⟨_, _, tiles, _, inner⟩ := everywhere _ reached
  obtain ⟨_, _, whole⟩ := inner .short 4294967292 rfl
  exact ⟨bounded, _, reached, rfl, rfl, tiles, whole⟩

end WireOrder
