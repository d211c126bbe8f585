import WireOrder.Proofs.ConversionCourse

/-!
# A walk step by step

A conversion walks over its buffer in two loops: the outer one takes up the
items, and the inner one crosses the fields of the token in hand.  A `Stage` is
a moment between two steps of these loops, with a record of the fields crossed
by then, and `Stage.Reached` holds of the stages that a conversion comes to.

What is true at every stage is shown of a single step first and then of
everything that is reached.  The fields crossed tile the buffer from its
beginning up to the offset of the walk, and that offset never leaves the
buffer.  Hence no more fields are crossed than there are bytes, however large
the counts are.  Where a conversion ends it has crossed exactly the fields that
its course gives.
-/

namespace WireOrder

/-- A conversion between two steps of its loops. -/
structure Stage where
  walk : Walk
  /-- What is left of the token in hand.  There is none in the outer loop. -/
  hand : Option Token
  /-- The items that have not been taken up yet. -/
  items : List Item
  /-- The fields crossed so far, each at the offset where it was crossed. -/
  crossed : List Span

namespace Stage

/-- The beginning of a conversion. -/
def start (items : List Item) (buffer : Bytes) : Stage :=
  ⟨Walk.start buffer, none, items, []⟩

/-- One step of a conversion. -/
inductive Step (direction : Direction) : Stage → Stage → Prop where
  /-- The outer loop takes up a token. -/
  | takeUp {walk : Walk} {token : Token} {items : List Item}
      {crossed : List Span} :
      Step direction ⟨walk, none, .ok token :: items, crossed⟩
        ⟨walk, some token, items, crossed⟩
  /-- The inner loop crosses one field of the token in hand. -/
  | cross {walk reached : Walk} {left : Nat} {field : Field}
      {items : List Item} {crossed : List Span} :
      walk.cross direction field = .ok reached →
      Step direction ⟨walk, some ⟨left + 1, field⟩, items, crossed⟩
        ⟨reached, some ⟨left, field⟩, items,
          crossed ++ [⟨walk.offset, field⟩]⟩
  /-- The inner loop is done with the token in hand. -/
  | layDown {walk : Walk} {field : Field} {items : List Item}
      {crossed : List Span} :
      Step direction ⟨walk, some ⟨0, field⟩, items, crossed⟩
        ⟨walk, none, items, crossed⟩

/-- The stages that a conversion of the buffer along the items comes to. -/
inductive Reached (direction : Direction) (items : List Item)
    (buffer : Bytes) : Stage → Prop where
  | start : Reached direction items buffer (start items buffer)
  | next {before after : Stage} :
      Reached direction items buffer before → Step direction before after →
      Reached direction items buffer after

/-- How a conversion ends at a stage from which there is no further step. -/
inductive Ends (direction : Direction) : Stage → Option Fault → Prop where
  /-- All items have been taken up. -/
  | finished {walk : Walk} {crossed : List Span} :
      Ends direction ⟨walk, none, [], crossed⟩ none
  /-- The next item is a fault. -/
  | malformed {walk : Walk} {fault : Fault} {items : List Item}
      {crossed : List Span} :
      Ends direction ⟨walk, none, .error fault :: items, crossed⟩
        (some fault)
  /-- The next field does not fit. -/
  | short {walk : Walk} {fault : Fault} {left : Nat} {field : Field}
      {items : List Item} {crossed : List Span} :
      walk.cross direction field = .error fault →
      Ends direction ⟨walk, some ⟨left + 1, field⟩, items, crossed⟩
        (some fault)

/-- The fields that are still to be crossed, if the buffer has room for
them. -/
def ahead (stage : Stage) : List Field :=
  fieldsOf stage.hand.toList ++ fieldsOf (leading stage.items)

end Stage

/-! ## The two loops come to the outcome of the conversion -/

namespace Stage.Reached

variable {direction : Direction} {origin items : List Item} {buffer : Bytes}
  {walk : Walk} {crossed : List Span}

theorem crossMany {field : Field} {count : Nat}
    (reached : Reached direction origin buffer
      ⟨walk, some ⟨count, field⟩, items, crossed⟩) :
    match Walk.crossMany direction field count walk with
    | (arrived, none) =>
        ∃ further, Reached direction origin buffer
          ⟨arrived, none, items, further⟩
    | (arrived, some fault) =>
        ∃ stage, Reached direction origin buffer stage ∧
          stage.walk = arrived ∧ Ends direction stage (some fault) := by
  induction count generalizing walk crossed with
  | zero => exact ⟨crossed, reached.next .layDown⟩
  | succ left ih =>
      cases step : walk.cross direction field with
      | error fault =>
          simp only [Walk.crossMany, step]
          exact ⟨_, reached, rfl, .short step⟩
      | ok arrived =>
          simp only [Walk.crossMany, step]
          exact ih (reached.next (.cross step))

theorem follow
    (reached : Reached direction origin buffer
      ⟨walk, none, items, crossed⟩) :
    ∃ stage, Reached direction origin buffer stage ∧
      stage.walk = (walk.follow direction items).state ∧
      Ends direction stage (walk.follow direction items).fault := by
  induction items generalizing walk crossed with
  | nil => exact ⟨_, reached, rfl, .finished⟩
  | cons item items ih =>
      cases item with
      | error fault => exact ⟨_, reached, rfl, .malformed⟩
      | ok token =>
          have inner := crossMany (reached.next .takeUp)
          simp only [Walk.follow, takeIn, Walk.crossToken]
          cases run : Walk.crossMany direction token.field token.count walk with
          | mk arrived refusal =>
              rw [run] at inner
              cases refusal with
              | none =>
                  obtain ⟨further, laidDown⟩ := inner
                  exact ih laidDown
              | some fault => exact inner

end Stage.Reached

theorem Stage.exists_reached_ends (direction : Direction)
    (items : List Item) (buffer : Bytes) :
    ∃ stage, Reached direction items buffer stage ∧
      Ends direction stage (convertItems direction items buffer).fault ∧
      stage.walk.buffer = (convertItems direction items buffer).buffer := by
  obtain ⟨stage, reached, arrived, ends⟩ :=
    Stage.Reached.follow (.start : Reached direction items buffer _)
  exact ⟨stage, reached, ends, congrArg Walk.buffer arrived⟩

/-! ## What every step keeps -/

theorem Walk.HasCrossed.of_cross {direction : Direction} {buffer : Bytes}
    {fields : List Field} {walk reached : Walk} {field : Field}
    (crossed : HasCrossed direction buffer fields walk)
    (step : walk.cross direction field = .ok reached) :
    HasCrossed direction buffer (fields ++ [field]) reached := by
  by_cases fits : walk.offset + field.width ≤ buffer.length
  · obtain ⟨other, otherStep, otherCrossed⟩ := crossed.cross field fits
    cases step.symm.trans otherStep
    exact otherCrossed
  · rw [crossed.offset_eq] at fits
    cases step.symm.trans (crossed.cross_overrun (Nat.lt_of_not_le fits))

namespace Stage

/-- What holds at a stage of a conversion of the buffer along the items. -/
structure Sound (direction : Direction) (items : List Item) (buffer : Bytes)
    (stage : Stage) : Prop where
  hasCrossed : stage.walk.HasCrossed direction buffer
    (stage.crossed.map Span.field)
  crossed_eq : stage.crossed = place 0 (stage.crossed.map Span.field)
  fields_eq : fieldsOf (leading items) =
    stage.crossed.map Span.field ++ stage.ahead

variable {direction : Direction} {items : List Item} {buffer : Bytes}
  {stage : Stage}

theorem sound_start (direction : Direction) (items : List Item)
    (buffer : Bytes) : Sound direction items buffer (start items buffer) where
  hasCrossed := Walk.hasCrossed_start direction buffer
  crossed_eq := rfl
  fields_eq := rfl

/-- The outer loop moves fields from the items to the hand, and the inner loop
moves them from the hand to those crossed. -/
theorem Sound.step {before after : Stage}
    (sound : Sound direction items buffer before)
    (step : Step direction before after) :
    Sound direction items buffer after := by
  obtain ⟨hasCrossed, crossedEquality, fieldsEquality⟩ := sound
  cases step with
  | takeUp =>
      refine ⟨hasCrossed, crossedEquality, ?_⟩
      simpa [ahead, leading, fieldsOf] using fieldsEquality
  | @cross walk reached left field later crossed step =>
      refine ⟨?_, ?_, ?_⟩
      · simpa using hasCrossed.of_cross step
      · -- The walk stands where the fields crossed before end.
        have offsetEquality : walk.offset = widthOf (crossed.map Span.field) :=
          hasCrossed.offset_eq
        have placed : crossed = place 0 (crossed.map Span.field) :=
          crossedEquality
        simp only [List.map_append, List.map_cons, List.map_nil, place_append,
          ← placed, ← offsetEquality, Nat.zero_add, place]
      · simpa [ahead, fieldsOf, Token.fields, List.replicate_succ]
          using fieldsEquality
  | layDown =>
      refine ⟨hasCrossed, crossedEquality, ?_⟩
      simpa [ahead, fieldsOf, Token.fields] using fieldsEquality

theorem Reached.sound (reached : Reached direction items buffer stage) :
    Sound direction items buffer stage := by
  induction reached with
  | start => exact sound_start direction items buffer
  | next _ step ih => exact ih.step step

end Stage

/-! ## Where the fields crossed lie -/

/-- The spans cover exactly the offsets up to `stop`, each offset once. -/
structure Tiles (spans : List Span) (stop : Nat) : Prop where
  covers_iff : ∀ position,
    (∃ span ∈ spans, span.Covers position) ↔ position < stop
  apart : spans.Pairwise fun earlier later => earlier.finish ≤ later.offset

theorem tiles_place (fields : List Field) :
    Tiles (place 0 fields) (widthOf fields) := by
  constructor
  · intro position
    simp [exists_covers_place_iff]
  · generalize 0 = offset
    induction fields generalizing offset with
    | nil => exact .nil
    | cons field fields ih =>
        refine List.pairwise_cons.mpr ⟨?_, ih (offset + field.width)⟩
        intro later member
        obtain ⟨before, _, _, offsetEquality⟩ := mem_place_iff.mp member
        rw [offsetEquality]
        exact Nat.le_add_right _ _

theorem length_le_widthOf (fields : List Field) :
    fields.length ≤ widthOf fields := by
  induction fields with
  | nil => exact Nat.le_refl 0
  | cons field fields ih =>
      have positive := field.width_pos
      simp only [List.length_cons, widthOf]
      omega

namespace Stage.Sound

variable {direction : Direction} {items : List Item} {buffer : Bytes}
  {stage : Stage}

theorem fits (sound : Sound direction items buffer stage) :
    widthOf (stage.crossed.map Span.field) ≤ buffer.length :=
  sound.hasCrossed.offset_eq ▸ sound.hasCrossed.offset_le

theorem tiles (sound : Sound direction items buffer stage) :
    Tiles stage.crossed stage.walk.offset := by
  rw [sound.crossed_eq, sound.hasCrossed.offset_eq]
  exact tiles_place _

theorem length_crossed_le (sound : Sound direction items buffer stage) :
    stage.crossed.length ≤ buffer.length := by
  calc
    stage.crossed.length = (stage.crossed.map Span.field).length := by
      simp
    _ ≤ widthOf (stage.crossed.map Span.field) := length_le_widthOf _
    _ ≤ buffer.length := sound.fits

theorem mem_convertedSpans (sound : Sound direction items buffer stage)
    {span : Span} (member : span ∈ stage.crossed) :
    span ∈ convertedSpans items buffer.length := by
  rw [convertedSpans, sound.fields_eq, fitting_append sound.fits,
    ← sound.crossed_eq]
  exact List.mem_append_left _ member

/-- Where the conversion ends, it has crossed all the fields it converts. -/
theorem crossed_eq_of_ends (sound : Sound direction items buffer stage)
    {ended : Option Fault} (ends : Ends direction stage ended) :
    stage.crossed = convertedSpans items buffer.length := by
  have fits := sound.fits
  rw [convertedSpans]
  cases ends with
  | @finished _ crossed | @malformed _ _ _ crossed =>
      have whole : fieldsOf (leading items) = crossed.map Span.field :=
        sound.fields_eq.trans (List.append_nil _)
      rw [whole, fitting_of_fits fits]
      exact sound.crossed_eq
  | @short walk fault left field later crossed stopped =>
      obtain ⟨rest, split⟩ : ∃ rest,
          fieldsOf (leading items) =
            crossed.map Span.field ++ field :: rest :=
        ⟨_, sound.fields_eq⟩
      -- With room for the field the walk would not have stopped before it.
      have overrun : buffer.length <
          widthOf (crossed.map Span.field) + field.width := by
        apply Nat.lt_of_not_le
        intro room
        rw [← sound.hasCrossed.offset_eq] at room
        obtain ⟨reached, step, _⟩ := sound.hasCrossed.cross field room
        cases stopped.symm.trans step
      rw [split, fitting_of_overrun fits overrun]
      exact sound.crossed_eq

end Stage.Sound

theorem mem_convertedSpans_iff_crossed (direction : Direction)
    {items : List Item} {buffer : Bytes} {span : Span} :
    span ∈ convertedSpans items buffer.length ↔
      ∃ stage, Stage.Reached direction items buffer stage ∧
        span ∈ stage.crossed := by
  constructor
  · intro converted
    obtain ⟨stage, reached, ends, _⟩ :=
      Stage.exists_reached_ends direction items buffer
    rw [← reached.sound.crossed_eq_of_ends ends] at converted
    exact ⟨stage, reached, converted⟩
  · intro crossed
    obtain ⟨stage, reached, member⟩ := crossed
    exact reached.sound.mem_convertedSpans member

end WireOrder
