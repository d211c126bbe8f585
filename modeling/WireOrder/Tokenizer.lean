import WireOrder.Cursor
import WireOrder.Event

/-!
# Tokenizing a format lazily

A tokenizer yields the tokens of a format one at a time.  The first malformed
entry is yielded as a fault, after which the tokenizer yields nothing more.

`next` is one step.  `steps` is the whole run: every item still to come, with
the tokenizer as it is left after it.
-/

namespace WireOrder

/-- What a tokenizer yields: a token, or the fault of a malformed entry. -/
abbrev Item := Except Fault Token

/-- A format on the way of being read. -/
structure Tokenizer where
  format : String
  cursor : Cursor
  failed : Bool
  deriving DecidableEq

namespace Tokenizer

/-- A tokenizer at the beginning of a format. -/
def ofString (format : String) : Tokenizer :=
  ⟨format, Cursor.start format, false⟩

/-- Byte position of the next unread character. -/
def position (tokenizer : Tokenizer) : Nat :=
  tokenizer.cursor.position

/-- Yield the next item, if there is one. -/
def next (tokenizer : Tokenizer) : Option Item × Tokenizer :=
  if tokenizer.failed || tokenizer.cursor.rest.isEmpty then
    (none, tokenizer)
  else
    match Cursor.scanEntry tokenizer.cursor with
    | .read token after =>
        (some (.ok token), { tokenizer with cursor := after })
    | .stuck fault place =>
        (some (.error fault),
          { tokenizer with cursor := place, failed := true })

/-- A bound on the number of items still to come. -/
def remaining (tokenizer : Tokenizer) : Nat :=
  if tokenizer.failed then 0 else tokenizer.cursor.rest.length

theorem remaining_lt_of_next {before after : Tokenizer} {item : Item}
    (yielded : before.next = (some item, after)) :
    after.remaining < before.remaining := by
  unfold next at yielded
  split at yielded
  · simp at yielded
  · rename_i ready
    simp only [Bool.or_eq_true, List.isEmpty_iff, not_or,
      Bool.not_eq_true] at ready
    split at yielded
    · rename_i reading
      simp only [Prod.mk.injEq, Option.some.injEq] at yielded
      have shorter := Cursor.scanEntry_length_lt reading
      simp [← yielded.2, remaining, ready.1, shorter]
    · simp only [Prod.mk.injEq, Option.some.injEq] at yielded
      have nonempty : 0 < before.cursor.rest.length :=
        List.length_pos_iff.mpr ready.2
      simp [← yielded.2, remaining, ready.1, nonempty]

/-- All items still to come, each with the tokenizer it leaves behind. -/
def steps (tokenizer : Tokenizer) : List (Item × Tokenizer) :=
  match _ : tokenizer.next with
  | (none, _) => []
  | (some item, after) => (item, after) :: after.steps
termination_by tokenizer.remaining
decreasing_by exact remaining_lt_of_next (by assumption)

/-- All items still to come. -/
def items (tokenizer : Tokenizer) : List Item :=
  tokenizer.steps.map Prod.fst

/-- The tokenizer after its last item. -/
def exhausted (tokenizer : Tokenizer) : Tokenizer :=
  (tokenizer.steps.map Prod.snd).getLastD tokenizer

/-- The tokenizer after a number of calls of `next`, whatever they yield. -/
def afterCalls : Nat → Tokenizer → Tokenizer
  | 0, tokenizer => tokenizer
  | calls + 1, tokenizer => afterCalls calls tokenizer.next.2

/-- The tokens among some items. -/
def tokensAmong (items : List Item) : List Token :=
  items.filterMap Except.toOption

/-- All items still to come as one list of tokens, or else the first fault
among them. -/
def collect (tokenizer : Tokenizer) : Except Fault (List Token) :=
  tokenizer.items.mapM id

/-- The tokenizer in record notation. -/
def dump (tokenizer : Tokenizer) : String :=
  Text.record "Tokens"
    [("format", Text.quote tokenizer.format),
      ("pos", tokenizer.position.repr),
      ("failed", Text.truth tokenizer.failed)]

theorem next_of_failed {tokenizer : Tokenizer}
    (failed : tokenizer.failed = true) :
    tokenizer.next = (none, tokenizer) := by
  simp [next, failed]

theorem next_of_rest_nil {tokenizer : Tokenizer}
    (finished : tokenizer.cursor.rest = []) :
    tokenizer.next = (none, tokenizer) := by
  simp [next, finished]

theorem eq_of_next_none {before after : Tokenizer}
    (silent : before.next = (none, after)) : after = before := by
  unfold next at silent
  split at silent
  · exact (Prod.mk.inj silent).2.symm
  · split at silent <;> simp at silent

theorem steps_of_next_none {before after : Tokenizer}
    (silent : before.next = (none, after)) : before.steps = [] := by
  unfold steps
  split
  · rfl
  · rename_i yielded
    rw [silent] at yielded
    simp at yielded

theorem steps_of_next_some {before after : Tokenizer} {item : Item}
    (yielded : before.next = (some item, after)) :
    before.steps = (item, after) :: after.steps := by
  rw [steps]
  split
  · rename_i silent
    rw [yielded] at silent
    simp at silent
  · rename_i other
    rw [yielded] at other
    simp only [Prod.mk.injEq, Option.some.injEq] at other
    rw [other.1, other.2]

end Tokenizer

end WireOrder
