import WireOrder.Proofs.LayoutParsing

/-!
# What a consumer takes up

A consumer takes up the values before the first fault one after the other, and
the one that it refuses is the last.  Which values it takes up therefore
follows from which sequences of values it goes through with.

Two consumers that refuse the same values take up the same.  Computing the
length of a format is reading the format without keeping the tokens, in this
sense.
-/

namespace WireOrder

namespace Intake

variable {σ α : Type} {absorb : σ → α → σ × Option Fault}

section Step

variable {state reached : σ} {value : α} (items : List (Except Fault α))

theorem takeIn_of_absorbed (absorbed : absorb state value = (reached, none)) :
    takeIn absorb state (.ok value :: items) =
      (takeIn absorb reached items).after value := by
  rw [takeIn, absorbed]

theorem takeIn_of_refused {fault : Fault}
    (refused : absorb state value = (reached, some fault)) :
    takeIn absorb state (.ok value :: items) =
      ⟨reached, [value], some fault⟩ := by
  rw [takeIn, refused]

end Step

theorem takeIn_eq_takeIn_leading (absorb : σ → α → σ × Option Fault)
    (state : σ) (items : List (Except Fault α)) :
    let faultless := takeIn absorb state ((leading items).map .ok)
    takeIn absorb state items =
      { faultless with
        fault := faultless.fault.or (firstFault? items) } := by
  induction items generalizing state with
  | nil => rfl
  | cons item items ih =>
      cases item with
      | error fault => rfl
      | ok value =>
          rw [leading, firstFault?, List.map_cons]
          cases absorbed : absorb state value with
          | mk reached refusal =>
              cases refusal with
              | some fault =>
                  rw [takeIn_of_refused _ absorbed,
                    takeIn_of_refused _ absorbed]
                  rfl
              | none =>
                  rw [takeIn_of_absorbed _ absorbed,
                    takeIn_of_absorbed _ absorbed, ih reached]
                  rfl

theorem taken_map_ok_of_unrefused {state : σ} {values : List α}
    (unrefused : (takeIn absorb state (values.map .ok)).fault = none) :
    (takeIn absorb state (values.map .ok)).taken = values := by
  induction values generalizing state with
  | nil => rfl
  | cons value values ih =>
      rw [List.map_cons] at unrefused ⊢
      cases absorbed : absorb state value with
      | mk reached refusal =>
          cases refusal with
          | some fault =>
              rw [takeIn_of_refused _ absorbed] at unrefused
              cases unrefused
          | none =>
              rw [takeIn_of_absorbed _ absorbed] at unrefused ⊢
              exact congrArg (value :: ·) (ih unrefused)

theorem taken_of_unrefused {state : σ} {items : List (Except Fault α)}
    (unrefused :
      (takeIn absorb state ((leading items).map .ok)).fault = none) :
    (takeIn absorb state items).taken = leading items := by
  rw [takeIn_eq_takeIn_leading]
  exact taken_map_ok_of_unrefused unrefused

theorem taken_of_refused {state : σ} {items : List (Except Fault α)}
    {before later : List α} {value : α}
    (split : leading items = before ++ value :: later)
    (unrefused : (takeIn absorb state (before.map .ok)).fault = none)
    (refused :
      (takeIn absorb state ((before ++ [value]).map .ok)).fault ≠ none) :
    (takeIn absorb state items).taken = before ++ [value] := by
  have takenBefore := taken_map_ok_of_unrefused unrefused
  rw [List.map_append, takeIn_append] at refused
  rw [takeIn_eq_takeIn_leading, split, List.map_append, takeIn_append]
  simp only [unrefused, takenBefore, List.map_cons] at refused ⊢
  cases absorbed :
      absorb (takeIn absorb state (before.map .ok)).state value with
  | mk reached refusal =>
      cases refusal with
      | some fault => rw [takeIn_of_refused _ absorbed]
      | none =>
          rw [takeIn_of_absorbed _ absorbed] at refused
          exact absurd rfl refused

/-- A consumer whose state is a part of the state of another one, and that
refuses the same values, gets as far. -/
theorem takeIn_of_part {τ : Type} {other : τ → α → τ × Option Fault}
    (part : σ → τ)
    (agrees : ∀ state value,
      other (part state) value =
        (part (absorb state value).1, (absorb state value).2))
    (state : σ) (items : List (Except Fault α)) :
    let whole := takeIn absorb state items
    takeIn other (part state) items =
      ⟨part whole.state, whole.taken, whole.fault⟩ := by
  induction items generalizing state with
  | nil => rfl
  | cons item items ih =>
      cases item with
      | error fault => rfl
      | ok value =>
          have sameStep := agrees state value
          cases absorbed : absorb state value with
          | mk reached refusal =>
              rw [absorbed] at sameStep
              cases refusal with
              | some fault =>
                  rw [takeIn_of_refused _ absorbed,
                    takeIn_of_refused _ sameStep]
              | none =>
                  rw [takeIn_of_absorbed _ absorbed,
                    takeIn_of_absorbed _ sameStep, ih reached]
                  rfl

end Intake

theorem addLength_byteLength (layout : Layout) (reading : Reading) :
    addLength layout.byteLength reading =
      ((layout.extend reading).1.byteLength, (layout.extend reading).2) := by
  by_cases small :
      layout.byteLength + reading.token.length < sizeLimit
  · have tokenSmall : reading.token.length < sizeLimit := by omega
    rw [Layout.extend_of_lt small]
    simp [addLength, Token.boundedLength?, size?, tokenSmall, small]
  · rw [Layout.extend_of_overflow (Nat.le_of_not_lt small)]
    by_cases tokenSmall : reading.token.length < sizeLimit
    · simp [addLength, Token.boundedLength?, size?, tokenSmall, small]
    · simp [addLength, Token.boundedLength?, size?, tokenSmall]

/-- The length of a format is that of its layout, and both are computed from
the same tokens. -/
theorem formatLengthTraced_eq (format : String) :
    let reading := Layout.parseTraced format
    formatLengthTraced format =
      ⟨reading.value.map Layout.byteLength, reading.events⟩ := by
  have lengthRun :
      takeIn addLength 0 (Tokenizer.ofString format).readings = _ :=
    Intake.takeIn_of_part Layout.byteLength addLength_byteLength Layout.empty
      (Tokenizer.ofString format).readings
  simp only [formatLengthTraced, Layout.parseTraced, lengthRun, Intake.result]
  cases (takeIn Layout.extend Layout.empty
      (Tokenizer.ofString format).readings).fault with
  | none => rfl
  | some fault => rfl

end WireOrder
