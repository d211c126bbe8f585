import WireOrder.Conversion

/-!
# Layouts

A layout is a format that has been read as a whole: its tokens and the number
of bytes they cover.  Converting through a layout checks the length of the
buffer first, so it either converts every field or leaves the buffer alone.

The length of a format can also be had without keeping its tokens, by
`formatLength`.  Both computations refuse a total that is out of range, at
the position they have read to.
-/

namespace WireOrder

/-- A token together with the byte position at which it ends. -/
structure Reading where
  token : Token
  finish : Nat
  deriving DecidableEq

namespace Tokenizer

/-- All items still to come, the tokens with the positions at which they
end. -/
def readings (tokenizer : Tokenizer) : List (Except Fault Reading) :=
  tokenizer.steps.map fun (item, after) =>
    item.map fun token => ⟨token, after.position⟩

end Tokenizer

/-- The reports of taking in readings. -/
def tokenEvents (readings : List Reading) : List Event :=
  readings.map fun reading => .tokenRead reading.token

/-- Add the length of a token to a total length. -/
def addLength (total : Nat) (reading : Reading) : Nat × Option Fault :=
  let lengthened :=
    reading.token.boundedLength?.bind fun length => size? (total + length)
  match lengthened with
  | some longer => (longer, none)
  | none => (total, some (.malformedFormat reading.finish .countOverflow))

/-- The number of bytes a format covers, with the tokens read on the way
reported. -/
def formatLengthTraced (format : String) : Traced (Except Fault Nat) :=
  let intake := takeIn addLength 0 (Tokenizer.ofString format).readings
  ⟨intake.result, tokenEvents intake.taken⟩

/-- The number of bytes a format covers. -/
def formatLength (format : String) : Except Fault Nat :=
  (formatLengthTraced format).value

/-- A format that has been read as a whole. -/
structure Layout where
  tokens : Array Token
  /-- The number of bytes the tokens cover. -/
  byteLength : Nat
  deriving DecidableEq

namespace Layout

/-- The layout of the empty format. -/
def empty : Layout :=
  ⟨#[], 0⟩

/-- Add a token at the end of a layout. -/
def extend (layout : Layout) (reading : Reading) : Layout × Option Fault :=
  let extended := do
    let length ← reading.token.boundedLength?
    size? (layout.byteLength + length)
  match extended with
  | some longer => (⟨layout.tokens.push reading.token, longer⟩, none)
  | none => (layout, some (.malformedFormat reading.finish .countOverflow))

/-- Read a format as a whole, with the tokens read on the way reported. -/
def parseTraced (format : String) : Traced (Except Fault Layout) :=
  let intake := takeIn extend empty (Tokenizer.ofString format).readings
  ⟨intake.result, tokenEvents intake.taken⟩

/-- Read a format as a whole. -/
def parse (format : String) : Except Fault Layout :=
  (parseTraced format).value

/-- Whether the layout has no fields. -/
def isEmpty (layout : Layout) : Bool :=
  layout.tokens.isEmpty

/-- The format of a layout in which every count is written out. -/
def text (layout : Layout) : String :=
  String.join (layout.tokens.toList.map Token.text)

/-- Convert a buffer that is long enough for the layout, and leave any other
buffer alone. -/
def convert (direction : Direction) (layout : Layout)
    (buffer : Bytes) : Conversion :=
  if buffer.length < layout.byteLength then
    ⟨buffer, some (.bufferTooShort 0 layout.byteLength buffer.length)⟩
  else
    convertItems direction (layout.tokens.toList.map .ok) buffer

/-- The layout in record notation. -/
def dump (layout : Layout) : String :=
  Text.record "Format"
    [("tokens", Text.sequence (layout.tokens.toList.map Token.dump)),
      ("encoded_len", layout.byteLength.repr)]

end Layout

end WireOrder
