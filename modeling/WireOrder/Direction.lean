import WireOrder.Version

/-!
# Directions

A conversion moves integers either from host order to network order or back.
It changes one field by reading its bytes in the order it comes from and
writing the same integer in the order it goes to.  Between the two byte
orders that amounts to reversing the bytes, whichever way the conversion
goes.
-/

namespace WireOrder

/-- Which way a conversion moves the bytes. -/
inductive Direction where
  | hostToNetwork
  | networkToHost
  deriving DecidableEq

namespace Direction

/-- The opposite direction. -/
def reverse : Direction → Direction
  | hostToNetwork => networkToHost
  | networkToHost => hostToNetwork

/-- The byte order a field is in before the conversion. -/
def source : Direction → Endianness
  | hostToNetwork => hostOrder
  | networkToHost => networkOrder

/-- The byte order a field is in after the conversion. -/
def target : Direction → Endianness
  | hostToNetwork => networkOrder
  | networkToHost => hostOrder

/-- The name of the direction. -/
def label : Direction → String
  | hostToNetwork => "HostToNetwork"
  | networkToHost => "NetworkToHost"

/-- Rearrange the bytes of one field so that they hold the same integer in the
other order. -/
def recode (direction : Direction) (chunk : Bytes) : Bytes :=
  direction.target.write chunk.length (direction.source.read chunk)

@[simp] theorem length_recode (direction : Direction) (chunk : Bytes) :
    (direction.recode chunk).length = chunk.length :=
  Endianness.length_write _ _ _

/-- The integer is the same before and after. -/
theorem read_recode (direction : Direction) (chunk : Bytes) :
    direction.target.read (direction.recode chunk) =
      direction.source.read chunk :=
  Endianness.read_write _ (Endianness.read_lt _ chunk)

theorem write_target (direction : Direction) (width value : Nat) :
    direction.target.write width value =
      (direction.source.write width value).reverse := by
  cases direction with
  | hostToNetwork => rfl
  | networkToHost => exact (List.reverse_reverse _).symm

theorem recode_eq_reverse (direction : Direction) (chunk : Bytes) :
    direction.recode chunk = chunk.reverse := by
  rw [recode, write_target, Endianness.write_read]

theorem recode_reverse_recode (direction : Direction) (chunk : Bytes) :
    direction.reverse.recode (direction.recode chunk) = chunk := by
  rw [recode_eq_reverse, recode_eq_reverse, List.reverse_reverse]

end Direction

end WireOrder
