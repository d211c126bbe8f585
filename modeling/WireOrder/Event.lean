import WireOrder.Direction
import WireOrder.Fault
import WireOrder.Token

/-!
# Diagnostic events

Reading a format and converting a buffer report what they do as a sequence of
events.  The sequence belongs to the outcome of an operation and does not
influence it: a maximum level only selects the events that are shown.
-/

namespace WireOrder

/-- How much is to be shown, from nothing at all to everything. -/
inductive Level where
  | off
  | error
  | warn
  | info
  | debug
  | trace
  deriving DecidableEq

namespace Level

/-- Position in the order from quiet to verbose. -/
def rank : Level → Nat
  | off => 0
  | error => 1
  | warn => 2
  | info => 3
  | debug => 4
  | trace => 5

/-- The name of the level. -/
def label : Level → String
  | off => "OFF"
  | error => "ERROR"
  | warn => "WARN"
  | info => "INFO"
  | debug => "DEBUG"
  | trace => "TRACE"

end Level

/-- Something worth reporting. -/
inductive Event where
  /-- A token was read from a format. -/
  | tokenRead (token : Token)
  /-- A conversion under a format text failed. -/
  | conversionFailed (direction : Direction) (format : String) (fault : Fault)
  deriving DecidableEq

namespace Event

/-- The level an event is reported at. -/
def level : Event → Level
  | tokenRead _ => .trace
  | conversionFailed _ _ _ => .debug

/-- The event in words. -/
def message : Event → String
  | tokenRead token =>
      "format token " ++ token.count.repr ++ " x " ++ token.field.name
  | conversionFailed direction format fault =>
      direction.label ++ " conversion of " ++ Text.quote format ++
        " failed: " ++ fault.message

/-- The events that are shown under a maximum level, in their order. -/
def shownUnder (maximum : Level) (events : List Event) : List Event :=
  events.filter fun event => decide (event.level.rank ≤ maximum.rank)

end Event

/-- A value together with the events reported on the way to it. -/
structure Traced (α : Type) where
  value : α
  events : List Event

namespace Traced

instance : Monad Traced where
  pure value := ⟨value, []⟩
  bind first next :=
    let second := next first.value
    ⟨second.value, first.events ++ second.events⟩

@[simp] theorem events_pure (value : α) :
    (pure value : Traced α).events = [] := rfl

@[simp] theorem events_bind (first : Traced α) (next : α → Traced β) :
    (first >>= next).events =
      first.events ++ (next first.value).events := rfl

end Traced

end WireOrder
