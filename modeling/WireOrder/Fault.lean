import WireOrder.Text.Dump

/-!
# Faults

A conversion fails for one of two causes: its format text is malformed, or
the buffer ends before the layout does.  A fault records where that was
noticed; positions in a format are counted in UTF-8 bytes and offsets in a
buffer in bytes.
-/

namespace WireOrder

/-- What is wrong with a malformed format. -/
inductive Malformation where
  /-- The format ended where a type code was expected. -/
  | missingTypeCode
  /-- Another character stood where a type code was expected. -/
  | unknownTypeCode (character : Char)
  /-- A count was written out and is zero. -/
  | zeroCount
  /-- A count, or the total length of a layout, is out of range. -/
  | countOverflow
  deriving DecidableEq

namespace Malformation

/-- The malformation in words. -/
def message : Malformation → String
  | missingTypeCode => "expected a type code, found end of format"
  | unknownTypeCode character =>
      "unknown type code " ++ Text.quoteCharacter character
  | zeroCount => "repeat count must be at least 1"
  | countOverflow => "repeat count too large"

/-- The name of the malformation. -/
def label : Malformation → String
  | missingTypeCode => "MissingTypeCode"
  | unknownTypeCode _ => "UnknownTypeCode"
  | zeroCount => "ZeroCount"
  | countOverflow => "CountOverflow"

/-- The malformation in record notation. -/
def dump : Malformation → String
  | unknownTypeCode character =>
      "UnknownTypeCode(" ++ Text.quoteCharacter character ++ ")"
  | malformation => malformation.label

end Malformation

/-- Why a conversion failed, and where. -/
inductive Fault where
  /-- The format is malformed at this byte of its text. -/
  | malformedFormat (position : Nat) (malformation : Malformation)
  /-- The field at `offset` takes `needed` bytes, more than there are left in
  a buffer of `available` bytes. -/
  | bufferTooShort (offset needed available : Nat)
  deriving DecidableEq

namespace Fault

/-- Whether the format is to blame, whatever the buffer. -/
def blamesFormat : Fault → Bool
  | malformedFormat _ _ => true
  | bufferTooShort _ _ _ => false

/-- The fault in words. -/
def message : Fault → String
  | malformedFormat position malformation =>
      "Malformed format at position " ++ position.repr ++ ": " ++
        malformation.message
  | bufferTooShort offset needed available =>
      "Buffer too short: field at offset " ++ offset.repr ++ " needs " ++
        needed.repr ++ " bytes, buffer holds " ++ available.repr

/-- The fault in record notation. -/
def dump : Fault → String
  | malformedFormat position malformation =>
      Text.record "MalformedFormat"
        [("position", position.repr), ("reason", malformation.dump)]
  | bufferTooShort offset needed available =>
      Text.record "BufferTooShort"
        [("offset", offset.repr), ("needed", needed.repr),
          ("available", available.repr)]

end Fault

end WireOrder
