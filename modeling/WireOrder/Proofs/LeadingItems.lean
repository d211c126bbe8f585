import WireOrder.Layout

/-!
# Items before the first fault

Whoever takes items in can only get as far as the first fault among them, so a
sequence of items amounts to two things: the values before its first fault,
and that fault if there is one.  Conversions and layouts are specified by these
two, whatever follows the fault.
-/

namespace WireOrder

/-- The values before the first fault. -/
def leading : List (Except Fault α) → List α
  | [] => []
  | .error _ :: _ => []
  | .ok value :: items => value :: leading items

/-- The first fault among some items. -/
def firstFault? : List (Except Fault α) → Option Fault
  | [] => none
  | .error fault :: _ => some fault
  | .ok _ :: items => firstFault? items

@[simp] theorem leading_map_ok (values : List α) :
    leading (values.map Except.ok) = values := by
  induction values with
  | nil => rfl
  | cons value values ih => simp [leading, ih]

@[simp] theorem firstFault?_map_ok (values : List α) :
    firstFault? (values.map Except.ok) = none := by
  induction values with
  | nil => rfl
  | cons value values ih => simpa [firstFault?] using ih

theorem leading_map_ok_append (values : List α)
    (items : List (Except Fault α)) :
    leading (values.map Except.ok ++ items) = values ++ leading items := by
  induction values with
  | nil => rfl
  | cons value values ih => simp [leading, ih]

theorem firstFault?_map_ok_append (values : List α)
    (items : List (Except Fault α)) :
    firstFault? (values.map Except.ok ++ items) = firstFault? items := by
  induction values with
  | nil => rfl
  | cons value values ih => exact ih

theorem leading_mapError (function : Fault → Fault)
    (items : List (Except Fault α)) :
    leading (items.map (Except.mapError function)) = leading items := by
  induction items with
  | nil => rfl
  | cons item items ih =>
      cases item with
      | error fault => rfl
      | ok value => exact congrArg (value :: ·) ih

theorem firstFault?_mapError (function : Fault → Fault)
    (items : List (Except Fault α)) :
    firstFault? (items.map (Except.mapError function)) =
      (firstFault? items).map function := by
  induction items with
  | nil => rfl
  | cons item items ih =>
      cases item with
      | error fault => rfl
      | ok value => exact ih

theorem leading_map (function : α → β) (items : List (Except Fault α)) :
    leading (items.map (Except.map function)) =
      (leading items).map function := by
  induction items with
  | nil => rfl
  | cons item items ih =>
      cases item with
      | error fault => rfl
      | ok value => simp [leading, Except.map, ih]

theorem firstFault?_map (function : α → β) (items : List (Except Fault α)) :
    firstFault? (items.map (Except.map function)) = firstFault? items := by
  induction items with
  | nil => rfl
  | cons item items ih =>
      cases item with
      | error fault => rfl
      | ok value => simpa [firstFault?, Except.map] using ih

theorem firstFault?_eq_none_iff {items : List (Except Fault α)} :
    firstFault? items = none ↔ ∀ fault, .error fault ∉ items := by
  induction items with
  | nil => simp [firstFault?]
  | cons item items ih =>
      cases item with
      | error fault =>
          constructor
          · intro faultless
            cases faultless
          · intro absent
            exact (absent fault List.mem_cons_self).elim
      | ok value => simp [firstFault?, ih]

theorem leading_eq_tokensAmong {items : List Item}
    (faultless : firstFault? items = none) :
    leading items = Tokenizer.tokensAmong items := by
  induction items with
  | nil => rfl
  | cons item items ih =>
      cases item with
      | error fault => cases faultless
      | ok token =>
          have later := ih faultless
          simp only [Tokenizer.tokensAmong] at later
          simp [leading, Tokenizer.tokensAmong, Except.toOption, later]

namespace Tokenizer

theorem items_eq_map_readings (tokenizer : Tokenizer) :
    tokenizer.items = tokenizer.readings.map (Except.map Reading.token) := by
  simp only [items, readings, List.map_map]
  apply List.map_congr_left
  intro step _
  obtain ⟨item, after⟩ := step
  cases item with
  | error fault => rfl
  | ok token => rfl

theorem leading_items (tokenizer : Tokenizer) :
    leading tokenizer.items =
      (leading tokenizer.readings).map Reading.token := by
  rw [items_eq_map_readings, leading_map]

theorem firstFault?_items (tokenizer : Tokenizer) :
    firstFault? tokenizer.items = firstFault? tokenizer.readings := by
  rw [items_eq_map_readings, firstFault?_map]

end Tokenizer

end WireOrder
