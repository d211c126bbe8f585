import WireOrder.Endianness
import WireOrder.Token

/-!
# Fields at their places

The fields of a layout follow one another without gaps.  `place` lays a
sequence of fields out from an offset and gives the span of bytes that each
of them takes, which is what the effect of a conversion is described by.
-/

namespace WireOrder

/-- A field at its place in a buffer. -/
structure Span where
  offset : Nat
  field : Field
  deriving DecidableEq

namespace Span

/-- The offset just after the field. -/
def finish (span : Span) : Nat :=
  span.offset + span.field.width

/-- The bytes of a buffer that belong to the field. -/
def slice (span : Span) (buffer : Bytes) : Bytes :=
  (buffer.drop span.offset).take span.field.width

/-- Whether an offset lies in the field. -/
def Covers (span : Span) (offset : Nat) : Prop :=
  span.offset ≤ offset ∧ offset < span.finish

end Span

/-- The exact number of bytes a sequence of fields covers. -/
def widthOf : List Field → Nat
  | [] => 0
  | field :: fields => field.width + widthOf fields

/-- Lay fields out one after the other from an offset. -/
def place : Nat → List Field → List Span
  | _, [] => []
  | offset, field :: fields =>
      ⟨offset, field⟩ :: place (offset + field.width) fields

/-- The fields, laid out from the beginning, up to the first that ends beyond
the given length. -/
def fitting (length : Nat) (fields : List Field) : List Span :=
  (place 0 fields).takeWhile fun span => decide (span.finish ≤ length)

theorem widthOf_append (first second : List Field) :
    widthOf (first ++ second) = widthOf first + widthOf second := by
  induction first with
  | nil => simp [widthOf]
  | cons field fields ih => simp [widthOf, ih, Nat.add_assoc]

theorem widthOf_fields (token : Token) :
    widthOf token.fields = token.length := by
  obtain ⟨count, field⟩ := token
  show widthOf (List.replicate count field) = count * field.width
  induction count with
  | zero => simp [widthOf]
  | succ count ih =>
      rw [List.replicate_succ, widthOf, ih, Nat.succ_mul, Nat.add_comm]

theorem widthOf_fieldsOf (tokens : List Token) :
    widthOf (fieldsOf tokens) = lengthOf tokens := by
  induction tokens with
  | nil => rfl
  | cons token tokens ih =>
      show widthOf (token.fields ++ fieldsOf tokens) = _
      rw [widthOf_append, widthOf_fields, ih, lengthOf]

@[simp] theorem map_field_place (offset : Nat) (fields : List Field) :
    (place offset fields).map Span.field = fields := by
  induction fields generalizing offset with
  | nil => rfl
  | cons field fields ih => simp [place, ih]

theorem place_append (offset : Nat) (first second : List Field) :
    place offset (first ++ second) =
      place offset first ++ place (offset + widthOf first) second := by
  induction first generalizing offset with
  | nil => simp [place, widthOf]
  | cons field fields ih =>
      simp [place, ih, widthOf, Nat.add_assoc]

/-- The fields take up all bytes from the beginning of the first to the end
of the last, and each byte belongs to one of them. -/
theorem exists_covers_place_iff {offset position : Nat}
    {fields : List Field} :
    (∃ span ∈ place offset fields, span.Covers position) ↔
      offset ≤ position ∧ position < offset + widthOf fields := by
  induction fields generalizing offset with
  | nil =>
      simp only [place, widthOf, List.not_mem_nil, false_and, exists_false,
        false_iff]
      omega
  | cons field fields ih =>
      simp only [place, List.mem_cons, exists_eq_or_imp, ih]
      simp only [Span.Covers, Span.finish, widthOf]
      omega

end WireOrder
