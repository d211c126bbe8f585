import WireOrder.Fault
import WireOrder.Token

/-!
# Reading one token

A format text is a sequence of entries, each an optional decimal count and a
type code.  A cursor marks how far a format has been read: it holds the
characters not yet read and counts the UTF-8 bytes of those already read.

Reading moves a cursor.  When it gets stuck, the cursor stays where that was
noticed, which is not always the position the fault reports: a bad count is
reported at its first digit.
-/

namespace WireOrder

/-- A place in a format text. -/
structure Cursor where
  /-- The characters still to be read. -/
  rest : List Char
  /-- The number of UTF-8 bytes read so far. -/
  position : Nat
  deriving DecidableEq

/-- The outcome of reading something from a format. -/
inductive Outcome (α : Type) where
  /-- A value was read, and the format is read up to here. -/
  | read (value : α) (after : Cursor)
  /-- Nothing could be read for the given fault, noticed here. -/
  | stuck (fault : Fault) (place : Cursor)

namespace Cursor

/-- The beginning of a format. -/
def start (format : String) : Cursor :=
  ⟨format.toList, 0⟩

/-- Read on in a numeral that began at byte `origin` and whose digits so far
denote `value`.  The numeral ends before the first character that is not an
ASCII digit; a digit that takes the value out of range is not consumed. -/
def numeral (origin value : Nat) : List Char → Nat → Outcome Nat
  | [], position => .read value ⟨[], position⟩
  | character :: rest, position =>
      if character.isDigit then
        let longer := 10 * value + (character.toNat - '0'.toNat)
        if longer < countLimit then
          numeral origin longer rest (position + 1)
        else
          .stuck (.malformedFormat origin .countOverflow)
            ⟨character :: rest, position⟩
      else
        .read value ⟨character :: rest, position⟩

/-- Read a count, if one is written out. -/
def scanCount (cursor : Cursor) : Outcome (Option Nat) :=
  match numeral cursor.position 0 cursor.rest cursor.position with
  | .stuck fault place => .stuck fault place
  | .read count after =>
      if after.position = cursor.position then
        .read none after
      else if count = 0 then
        .stuck (.malformedFormat cursor.position .zeroCount) after
      else
        .read (some count) after

/-- Read a type code. -/
def scanCode (cursor : Cursor) : Outcome Field :=
  match cursor.rest with
  | [] =>
      .stuck (.malformedFormat cursor.position .missingTypeCode) cursor
  | character :: rest =>
      match Field.ofCode? character with
      | none =>
          .stuck
            (.malformedFormat cursor.position (.unknownTypeCode character))
            cursor
      | some field =>
          .read field ⟨rest, cursor.position + character.utf8Size⟩

/-- Read one entry.  A count that is left out counts as one. -/
def scanEntry (cursor : Cursor) : Outcome Token :=
  match scanCount cursor with
  | .stuck fault place => .stuck fault place
  | .read count middle =>
      match scanCode middle with
      | .stuck fault place => .stuck fault place
      | .read field after => .read ⟨count.getD 1, field⟩ after

theorem numeral_length_le
    {origin value position count : Nat} {rest : List Char} {after : Cursor}
    (reading : numeral origin value rest position = .read count after) :
    after.rest.length ≤ rest.length := by
  induction rest generalizing value position with
  | nil =>
      cases reading
      exact Nat.le_refl _
  | cons character rest ih =>
      unfold numeral at reading
      split at reading
      · dsimp only at reading
        split at reading
        · exact Nat.le_succ_of_le (ih reading)
        · cases reading
      · cases reading
        exact Nat.le_refl _

theorem scanCount_length_le
    {before after : Cursor} {count : Option Nat}
    (reading : scanCount before = .read count after) :
    after.rest.length ≤ before.rest.length := by
  unfold scanCount at reading
  split at reading
  · cases reading
  · rename_i numbered
    split at reading
    · cases reading
      exact numeral_length_le numbered
    · split at reading
      · cases reading
      · cases reading
        exact numeral_length_le numbered

theorem scanCode_length_lt
    {before after : Cursor} {field : Field}
    (reading : scanCode before = .read field after) :
    after.rest.length < before.rest.length := by
  unfold scanCode at reading
  split at reading
  · cases reading
  · rename_i remaining
    split at reading
    · cases reading
    · cases reading
      simp [remaining]

theorem scanEntry_length_lt
    {before after : Cursor} {token : Token}
    (reading : scanEntry before = .read token after) :
    after.rest.length < before.rest.length := by
  unfold scanEntry at reading
  split at reading
  · cases reading
  · rename_i counted
    split at reading
    · cases reading
    · rename_i coded
      cases reading
      exact Nat.lt_of_lt_of_le (scanCode_length_lt coded)
        (scanCount_length_le counted)

end Cursor

end WireOrder
