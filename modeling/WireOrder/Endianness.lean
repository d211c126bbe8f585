/-!
# Byte order of unsigned integers

A sequence of bytes is the positional notation, in base 256, of a natural
number.  The two byte orders differ in which end holds the least significant
digit.  `read` and `write` are inverse to each other on sequences of a fixed
width, which is what makes a change of byte order lossless.
-/

namespace WireOrder

/-- The contents of a buffer. -/
abbrev Bytes := List UInt8

/-- Which end of an integer comes first in memory. -/
inductive Endianness where
  | bigEndian
  | littleEndian
  deriving DecidableEq

namespace Endianness

/-- Whether the most significant byte comes first. -/
def isBigEndian : Endianness → Bool
  | bigEndian => true
  | littleEndian => false

/-- The number whose digits are the given bytes, least significant first. -/
def valueFromLeast : Bytes → Nat
  | [] => 0
  | byte :: bytes => byte.toNat + 256 * valueFromLeast bytes

/-- The `width` least significant digits of a number, least significant
first. -/
def digitsFromLeast : Nat → Nat → Bytes
  | 0, _ => []
  | width + 1, value =>
      UInt8.ofNat value :: digitsFromLeast width (value / 256)

/-- The number of unsigned integers of a width in bytes. -/
def capacity : Nat → Nat
  | 0 => 1
  | width + 1 => 256 * capacity width

/-- The unsigned integer stored in the bytes. -/
def read : Endianness → Bytes → Nat
  | bigEndian, bytes =>
      bytes.foldl (fun value byte => 256 * value + byte.toNat) 0
  | littleEndian, bytes => valueFromLeast bytes

/-- The bytes, `width` of them, that store the unsigned integer. -/
def write : Endianness → Nat → Nat → Bytes
  | bigEndian, width, value => (digitsFromLeast width value).reverse
  | littleEndian, width, value => digitsFromLeast width value

theorem length_digitsFromLeast (width value : Nat) :
    (digitsFromLeast width value).length = width := by
  induction width generalizing value with
  | zero => rfl
  | succ width ih => simp [digitsFromLeast, ih]

@[simp] theorem length_write
    (order : Endianness) (width value : Nat) :
    (order.write width value).length = width := by
  cases order <;> simp [write, length_digitsFromLeast]

theorem digitsFromLeast_valueFromLeast (bytes : Bytes) :
    digitsFromLeast bytes.length (valueFromLeast bytes) = bytes := by
  induction bytes with
  | nil => rfl
  | cons byte bytes ih =>
      have bounded : byte.toNat < 256 := byte.toNat_lt
      have quotient :
          (byte.toNat + 256 * valueFromLeast bytes) / 256 =
            valueFromLeast bytes := by
        omega
      have digit :
          UInt8.ofNat (byte.toNat + 256 * valueFromLeast bytes) = byte := by
        apply UInt8.toNat_inj.mp
        simp only [UInt8.toNat_ofNat']
        omega
      simp [valueFromLeast, digitsFromLeast, quotient, digit, ih]

theorem valueFromLeast_lt (bytes : Bytes) :
    valueFromLeast bytes < capacity bytes.length := by
  induction bytes with
  | nil => exact Nat.one_pos
  | cons byte bytes ih =>
      have bounded : byte.toNat < 256 := byte.toNat_lt
      simp only [valueFromLeast, List.length_cons, capacity]
      omega

theorem valueFromLeast_digitsFromLeast {width value : Nat}
    (bounded : value < capacity width) :
    valueFromLeast (digitsFromLeast width value) = value := by
  induction width generalizing value with
  | zero =>
      simp only [capacity, Nat.lt_one_iff] at bounded
      simp [digitsFromLeast, valueFromLeast, bounded]
  | succ width ih =>
      have smaller : value / 256 < capacity width :=
        Nat.div_lt_of_lt_mul bounded
      simp only [digitsFromLeast, valueFromLeast, ih smaller,
        UInt8.toNat_ofNat']
      omega

theorem read_bigEndian (bytes : Bytes) :
    bigEndian.read bytes = valueFromLeast bytes.reverse := by
  have folded : ∀ bytes : Bytes,
      bytes.foldr (fun byte value => 256 * value + byte.toNat) 0 =
        valueFromLeast bytes := by
    intro bytes
    induction bytes with
    | nil => rfl
    | cons byte bytes ih =>
        rw [List.foldr_cons, ih, valueFromLeast, Nat.add_comm]
  rw [← folded, List.foldr_reverse]
  rfl

theorem read_lt (order : Endianness) (bytes : Bytes) :
    order.read bytes < capacity bytes.length := by
  cases order with
  | bigEndian =>
      rw [read_bigEndian, ← List.length_reverse]
      exact valueFromLeast_lt bytes.reverse
  | littleEndian => exact valueFromLeast_lt bytes

/-- What was read can be written back in the same order. -/
theorem write_read (order : Endianness) (bytes : Bytes) :
    order.write bytes.length (order.read bytes) = bytes := by
  cases order with
  | bigEndian =>
      have restored := digitsFromLeast_valueFromLeast bytes.reverse
      rw [List.length_reverse] at restored
      simp [write, read_bigEndian, restored]
  | littleEndian => exact digitsFromLeast_valueFromLeast bytes

/-- A number that fits the width survives being written and read. -/
theorem read_write (order : Endianness) {width value : Nat}
    (bounded : value < capacity width) :
    order.read (order.write width value) = value := by
  cases order with
  | bigEndian =>
      rw [read_bigEndian, write, List.reverse_reverse,
        valueFromLeast_digitsFromLeast bounded]
  | littleEndian => exact valueFromLeast_digitsFromLeast bounded

end Endianness

end WireOrder
