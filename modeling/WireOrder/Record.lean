import WireOrder.Conversion

/-!
# Records in memory

A record is a value whose memory consists of integers without gaps.  It is
converted as the bytes it occupies; its shape matters only for reading the
integers back.  A sequence of records is converted one record after the
other and stops at the first that fails.
-/

namespace WireOrder

/-- The type of one integer in memory. -/
structure Scalar where
  width : Nat
  signed : Bool

namespace Scalar

/-- The unsigned integer of a width in bytes. -/
def unsigned (width : Nat) : Scalar :=
  ⟨width, false⟩

/-- The two's complement integer of a width in bytes. -/
def twosComplement (width : Nat) : Scalar :=
  ⟨width, true⟩

/-- The integer that the host sees in the given bytes. -/
def value (scalar : Scalar) (bytes : Bytes) : Int :=
  let magnitude : Int := hostOrder.read bytes
  if scalar.signed then
    magnitude.bmod (Endianness.capacity scalar.width)
  else
    magnitude

end Scalar

/-- The integers a record consists of, in memory order. -/
abbrev RecordShape := List Scalar

namespace RecordShape

/-- The integers that the host sees in the memory of a record. -/
def values : RecordShape → Bytes → List Int
  | [], _ => []
  | scalar :: shape, bytes =>
      scalar.value (bytes.take scalar.width) ::
        values shape (bytes.drop scalar.width)

end RecordShape

/-- The outcome of converting a sequence of records. -/
structure BatchConversion where
  /-- The memory of every record afterwards. -/
  records : List Bytes
  /-- Why the conversion stopped early, if it did. -/
  fault : Option Fault
  deriving DecidableEq

/-- Convert every record of a sequence, up to the first that fails, and
report on each conversion. -/
def convertRecordsTraced (direction : Direction) (format : String) :
    List Bytes → Traced BatchConversion
  | [] => ⟨⟨[], none⟩, []⟩
  | record :: records =>
      let first := convertTraced direction format record
      match first.value.fault with
      | some fault =>
          ⟨⟨first.value.buffer :: records, some fault⟩, first.events⟩
      | none =>
          let later := convertRecordsTraced direction format records
          ⟨⟨first.value.buffer :: later.value.records, later.value.fault⟩,
            first.events ++ later.events⟩

/-- Convert every record of a sequence, up to the first that fails. -/
def convertRecords (direction : Direction) (format : String)
    (records : List Bytes) : BatchConversion :=
  (convertRecordsTraced direction format records).value

@[simp] theorem convertRecords_nil (direction : Direction) (format : String) :
    convertRecords direction format [] = ⟨[], none⟩ := rfl

theorem convertRecords_cons (direction : Direction) (format : String)
    (record : Bytes) (records : List Bytes) :
    convertRecords direction format (record :: records) =
      let first := convert direction format record
      match first.fault with
      | some fault => ⟨first.buffer :: records, some fault⟩
      | none =>
          let later := convertRecords direction format records
          ⟨first.buffer :: later.records, later.fault⟩ := by
  simp only [convertRecords, convertRecordsTraced, convert]
  split <;> rfl

end WireOrder
