import WireOrder.Proofs.LeadingItems

/-!
# What a format is read to

Reading a format as a whole adds up the lengths of its tokens and keeps the
sum below `sizeLimit`.  As long as the exact sum stays below that limit the
checks never interfere: the layout has the tokens before the first fault with
their exact total length, and is refused with that fault if there is one.  A
sum out of range is refused as an overflow, even if a fault comes later.
-/

namespace WireOrder

namespace Layout

theorem extend_of_lt {layout : Layout} {reading : Reading}
    (small : layout.byteLength + reading.token.length < sizeLimit) :
    layout.extend reading =
      (⟨layout.tokens.push reading.token,
        layout.byteLength + reading.token.length⟩, none) := by
  have tokenSmall : reading.token.length < sizeLimit := by omega
  simp [extend, Token.boundedLength?, size?, tokenSmall, small]

theorem extend_of_overflow {layout : Layout} {reading : Reading}
    (large : sizeLimit ≤ layout.byteLength + reading.token.length) :
    layout.extend reading =
      (layout, some (.malformedFormat reading.finish .countOverflow)) := by
  have notSmall :
      ¬ layout.byteLength + reading.token.length < sizeLimit := by
    omega
  by_cases tokenSmall : reading.token.length < sizeLimit
  · simp [extend, Token.boundedLength?, size?, tokenSmall, notSmall]
  · simp [extend, Token.boundedLength?, size?, tokenSmall]

theorem takeIn_extend_of_lt (layout : Layout)
    (readings : List (Except Fault Reading))
    (small : layout.byteLength +
      lengthOf ((leading readings).map Reading.token) < sizeLimit) :
    (takeIn extend layout readings).state =
        ⟨layout.tokens ++ (leading readings).map Reading.token,
          layout.byteLength +
            lengthOf ((leading readings).map Reading.token)⟩ ∧
      (takeIn extend layout readings).fault = firstFault? readings := by
  induction readings generalizing layout with
  | nil => simp [takeIn, leading, firstFault?, lengthOf]
  | cons item readings ih =>
      cases item with
      | error fault => simp [takeIn, leading, firstFault?, lengthOf]
      | ok reading =>
          simp only [leading, List.map_cons, lengthOf] at small
          have firstSmall :
              layout.byteLength + reading.token.length < sizeLimit := by
            omega
          obtain ⟨stateEquality, faultEquality⟩ :=
            ih ⟨layout.tokens.push reading.token,
              layout.byteLength + reading.token.length⟩ (by
                change _ + _ + _ < _
                omega)
          simp only [takeIn, extend_of_lt firstSmall, Intake.after, leading,
            firstFault?, List.map_cons, lengthOf]
          refine ⟨?_, faultEquality⟩
          rw [stateEquality]
          simp [Nat.add_assoc]

theorem takeIn_extend_of_overflow (layout : Layout)
    (readings : List (Except Fault Reading))
    (begun : layout.byteLength < sizeLimit)
    (large : sizeLimit ≤ layout.byteLength +
      lengthOf ((leading readings).map Reading.token)) :
    ∃ position, (takeIn extend layout readings).fault =
      some (.malformedFormat position .countOverflow) := by
  induction readings generalizing layout with
  | nil =>
      simp only [leading, List.map_nil, lengthOf] at large
      omega
  | cons item readings ih =>
      cases item with
      | error fault =>
          simp only [leading, List.map_nil, lengthOf] at large
          omega
      | ok reading =>
          simp only [leading, List.map_cons, lengthOf] at large
          -- The reading refused is the first to take the sum out of range.
          by_cases small :
              layout.byteLength + reading.token.length < sizeLimit
          · simp only [takeIn, extend_of_lt small, Intake.after]
            apply ih
            · exact small
            · change _ ≤ _ + _ + _
              omega
          · refine ⟨reading.finish, ?_⟩
            simp only [takeIn, extend_of_overflow (Nat.le_of_not_lt small)]

theorem parse_of_lt {format : String}
    (small : lengthOf (leading (Tokenizer.ofString format).items) <
      sizeLimit) :
    parse format =
      match firstFault? (Tokenizer.ofString format).items with
      | none =>
          .ok ⟨(leading (Tokenizer.ofString format).items).toArray,
            lengthOf (leading (Tokenizer.ofString format).items)⟩
      | some fault => .error fault := by
  rw [Tokenizer.leading_items] at small
  obtain ⟨stateEquality, faultEquality⟩ :=
    takeIn_extend_of_lt empty (Tokenizer.ofString format).readings
      (by simpa [empty] using small)
  rw [Tokenizer.firstFault?_items, Tokenizer.leading_items]
  change (takeIn extend empty _).result = _
  rw [Intake.result, stateEquality, faultEquality]
  cases firstFault? (Tokenizer.ofString format).readings with
  | none => simp [empty]
  | some fault => rfl

theorem parse_of_overflow {format : String}
    (large : sizeLimit ≤
      lengthOf (leading (Tokenizer.ofString format).items)) :
    ∃ position,
      parse format = .error (.malformedFormat position .countOverflow) := by
  rw [Tokenizer.leading_items] at large
  obtain ⟨position, refused⟩ :=
    takeIn_extend_of_overflow empty (Tokenizer.ofString format).readings
      (by decide) (by simpa [empty] using large)
  refine ⟨position, ?_⟩
  change (takeIn extend empty _).result = _
  rw [Intake.result, refused]

theorem firstFault?_of_parse_error {format : String} {fault : Fault}
    (small : lengthOf (leading (Tokenizer.ofString format).items) <
      sizeLimit)
    (refused : parse format = .error fault) :
    firstFault? (Tokenizer.ofString format).items = some fault := by
  rw [parse_of_lt small] at refused
  cases first : firstFault? (Tokenizer.ofString format).items with
  | none =>
      rw [first] at refused
      cases refused
  | some found =>
      rw [first] at refused
      cases refused
      rfl

/-- What a layout holds is exactly what was read before any fault. -/
theorem parse_eq_ok_iff {format : String} {layout : Layout} :
    parse format = .ok layout ↔
      firstFault? (Tokenizer.ofString format).items = none ∧
        layout.byteLength < sizeLimit ∧
        layout.tokens.toList =
          leading (Tokenizer.ofString format).items ∧
        layout.byteLength = lengthOf layout.tokens.toList := by
  by_cases small :
      lengthOf (leading (Tokenizer.ofString format).items) < sizeLimit
  · rw [parse_of_lt small]
    cases firstFault? (Tokenizer.ofString format).items with
    | none =>
        constructor
        · intro same
          cases same
          exact ⟨rfl, small, rfl, rfl⟩
        · intro contents
          obtain ⟨_, _, tokensEquality, lengthEquality⟩ := contents
          obtain ⟨tokens, byteLength⟩ := layout
          rw [tokensEquality] at lengthEquality
          simp only at tokensEquality lengthEquality
          rw [← tokensEquality, Array.toArray_toList, tokensEquality,
            lengthEquality]
    | some fault => simp
  · obtain ⟨position, refused⟩ := parse_of_overflow (Nat.le_of_not_lt small)
    rw [refused]
    constructor
    · intro same
      cases same
    · intro contents
      obtain ⟨_, lengthSmall, tokensEquality, lengthEquality⟩ := contents
      rw [← tokensEquality, ← lengthEquality] at small
      exact absurd lengthSmall small

end Layout

end WireOrder
