import WireOrder.Event
import WireOrder.Walk

/-!
# Conversion of a buffer

`convert` changes a buffer in one direction as a format text describes it.
Bytes beyond the layout are left alone.  A conversion that fails stops at the
first malformed entry or at the first field that does not fit; the fields
before that point stay converted.

The format is read while the buffer is walked, so a field that does not fit
is noticed before a malformed entry that comes after it.  Every token taken
up is reported, and so is the failure of the conversion.
-/

namespace WireOrder

/-- The outcome of a conversion. -/
structure Conversion where
  /-- The buffer afterwards, also after a failure. -/
  buffer : Bytes
  /-- Why the conversion stopped early, if it did. -/
  fault : Option Fault
  deriving DecidableEq

namespace Conversion

/-- What a finished walk amounts to. -/
def ofIntake (intake : Intake Walk Token) : Conversion :=
  ⟨intake.state.buffer, intake.fault⟩

/-- The converted buffer, if the conversion went through. -/
def result (conversion : Conversion) : Except Fault Bytes :=
  match conversion.fault with
  | none => .ok conversion.buffer
  | some fault => .error fault

theorem result_eq_ok_iff {conversion : Conversion} {returned : Bytes} :
    conversion.result = .ok returned ↔
      conversion.fault = none ∧ conversion.buffer = returned := by
  obtain ⟨buffer, fault⟩ := conversion
  cases fault with
  | none => simp [result]
  | some fault => simp [result]

theorem result_eq_error_iff {conversion : Conversion} {fault : Fault} :
    conversion.result = .error fault ↔ conversion.fault = some fault := by
  obtain ⟨buffer, refusal⟩ := conversion
  cases refusal with
  | none => simp [result]
  | some refusal => simp [result]

end Conversion

/-- Convert a buffer along a sequence of items. -/
def convertItems (direction : Direction) (items : List Item)
    (buffer : Bytes) : Conversion :=
  .ofIntake ((Walk.start buffer).follow direction items)

/-- Convert a buffer as a format text describes it, and report the tokens
taken up and the failure. -/
def convertTraced (direction : Direction) (format : String)
    (buffer : Bytes) : Traced Conversion :=
  let intake :=
    (Walk.start buffer).follow direction (Tokenizer.ofString format).items
  let failure := intake.fault.map (.conversionFailed direction format)
  ⟨.ofIntake intake, intake.taken.map .tokenRead ++ failure.toList⟩

/-- Convert a buffer as a format text describes it. -/
def convert (direction : Direction) (format : String)
    (buffer : Bytes) : Conversion :=
  (convertTraced direction format buffer).value

theorem convert_eq_convertItems
    (direction : Direction) (format : String) (buffer : Bytes) :
    convert direction format buffer =
      convertItems direction (Tokenizer.ofString format).items buffer := rfl

end WireOrder
