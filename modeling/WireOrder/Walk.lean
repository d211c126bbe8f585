import WireOrder.Direction
import WireOrder.Fault
import WireOrder.Intake
import WireOrder.Tokenizer

/-!
# Walking over a buffer

A conversion walks over its buffer from left to right, field by field.  The
fields it has crossed are converted and stay so; the bytes ahead are as they
were.  A field that does not fit into what is ahead stops the walk where it
stands.

A count may be far larger than the buffer, so the fields of a token are
crossed one at a time and never written out as a list.
-/

namespace WireOrder

/-- A place in a buffer on the way of being converted. -/
structure Walk where
  /-- The bytes crossed, in their converted form, the nearest one first. -/
  behind : Bytes
  /-- The number of bytes crossed. -/
  offset : Nat
  /-- The bytes still to be crossed. -/
  ahead : Bytes

namespace Walk

/-- The beginning of a buffer. -/
def start (buffer : Bytes) : Walk :=
  ⟨[], 0, buffer⟩

/-- The whole buffer as the walk leaves it. -/
def buffer (walk : Walk) : Bytes :=
  walk.behind.reverse ++ walk.ahead

/-- Convert the next field and step over it. -/
def cross (direction : Direction) (field : Field) (walk : Walk) :
    Except Fault Walk :=
  let chunk := walk.ahead.take field.width
  if chunk.length < field.width then
    .error (.bufferTooShort walk.offset field.width walk.buffer.length)
  else
    .ok ⟨(direction.recode chunk).reverse ++ walk.behind,
      walk.offset + field.width, walk.ahead.drop field.width⟩

/-- Cross a number of fields of one kind, as far as they fit. -/
def crossMany (direction : Direction) (field : Field) :
    Nat → Walk → Walk × Option Fault
  | 0, walk => (walk, none)
  | count + 1, walk =>
      match walk.cross direction field with
      | .error fault => (walk, some fault)
      | .ok reached => crossMany direction field count reached

/-- Cross the fields of a token. -/
def crossToken (direction : Direction) (walk : Walk) (token : Token) :
    Walk × Option Fault :=
  crossMany direction token.field token.count walk

/-- Cross the fields of a sequence of tokens up to the first fault. -/
def follow (direction : Direction) (walk : Walk) (items : List Item) :
    Intake Walk Token :=
  takeIn (crossToken direction) walk items

theorem cross_of_fits {direction : Direction} {field : Field} {walk : Walk}
    (fits : field.width ≤ walk.ahead.length) :
    walk.cross direction field =
      .ok ⟨(direction.recode (walk.ahead.take field.width)).reverse ++
          walk.behind,
        walk.offset + field.width, walk.ahead.drop field.width⟩ := by
  have whole : ¬ (walk.ahead.take field.width).length < field.width := by
    rw [List.length_take]
    omega
  simp only [cross, if_neg whole]

theorem cross_of_short {direction : Direction} {field : Field} {walk : Walk}
    (short : walk.ahead.length < field.width) :
    walk.cross direction field =
      .error (.bufferTooShort walk.offset field.width
        walk.buffer.length) := by
  have cut : (walk.ahead.take field.width).length < field.width := by
    rw [List.length_take]
    omega
  simp only [cross, if_pos cut]

end Walk

end WireOrder
