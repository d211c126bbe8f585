import WireOrder.Endianness

/-!
# What a version of the rules settles

Integers have a fixed byte order in memory and on the wire, and counts and
sizes are machine words.  A version of the conversion rules settles these
orders and ranges, on which everything else is built.
-/

namespace WireOrder

/-- The current version. -/
def version : String := "0.1.0"

/-- The byte order of integers in memory. -/
def hostOrder : Endianness := .littleEndian

/-- The byte order of integers on the wire. -/
def networkOrder : Endianness := .bigEndian

/-- Repeat counts are 32-bit numbers, below this limit. -/
def countLimit : Nat := 0x100000000

/-- Sizes in bytes are 64-bit numbers, below this limit. -/
def sizeLimit : Nat := 0x10000000000000000

/-- Buffers have fewer bytes than this, because their lengths have to be signed
sizes. -/
def bufferLimit : Nat := 0x8000000000000000

/-- The given size, unless it is out of range. -/
def size? (size : Nat) : Option Nat :=
  if size < sizeLimit then some size else none

end WireOrder
