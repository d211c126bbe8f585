import WireOrder.Fault

/-!
# Taking items in

A consumer takes in a sequence of items one after the other and changes its
state on the way.  It stops at an item that is a fault, or when it refuses an
item with a fault of its own; the state it has reached by then is kept.
Everything that reads a format to some purpose is such a consumer.
-/

namespace WireOrder

/-- The outcome of taking items in. -/
structure Intake (σ α : Type) where
  /-- The state reached. -/
  state : σ
  /-- The values taken up, in order; the last one may have been refused. -/
  taken : List α
  /-- What stopped the intake before the end, if anything did. -/
  fault : Option Fault

namespace Intake

/-- Take up one more value at the front. -/
def after (value : α) (later : Intake σ α) : Intake σ α :=
  { later with taken := value :: later.taken }

/-- The state reached, if nothing stopped the intake. -/
def result (intake : Intake σ α) : Except Fault σ :=
  match intake.fault with
  | none => .ok intake.state
  | some fault => .error fault

theorem result_eq_error_iff {intake : Intake σ α} {fault : Fault} :
    intake.result = .error fault ↔ intake.fault = some fault := by
  obtain ⟨state, taken, refusal⟩ := intake
  cases refusal with
  | none => simp [result]
  | some refusal => simp [result]

end Intake

/-- Take items in from a state.  `absorb` gives the state after a value, and
the fault with which the value is refused, if it is. -/
def takeIn (absorb : σ → α → σ × Option Fault) (state : σ) :
    List (Except Fault α) → Intake σ α
  | [] => ⟨state, [], none⟩
  | .error fault :: _ => ⟨state, [], some fault⟩
  | .ok value :: items =>
      match absorb state value with
      | (reached, some fault) => ⟨reached, [value], some fault⟩
      | (reached, none) => (takeIn absorb reached items).after value

namespace Intake

/-- Taking in two sequences one after the other is taking in the second from
the state the first has reached, unless the first was stopped. -/
theorem takeIn_append (absorb : σ → α → σ × Option Fault) (state : σ)
    (first second : List (Except Fault α)) :
    takeIn absorb state (first ++ second) =
      let early := takeIn absorb state first
      match early.fault with
      | some _ => early
      | none =>
          let later := takeIn absorb early.state second
          { later with taken := early.taken ++ later.taken } := by
  induction first generalizing state with
  | nil => simp [takeIn]
  | cons item items ih =>
      cases item with
      | error fault => simp [takeIn]
      | ok value =>
          cases absorbed : absorb state value with
          | mk reached refusal =>
              cases refusal with
              | some fault => simp [takeIn, absorbed]
              | none =>
                  simp only [List.cons_append, takeIn, absorbed, ih, after]
                  split <;> rfl

end Intake

end WireOrder
