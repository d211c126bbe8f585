import WireOrder.Field
import WireOrder.Text.Dump
import WireOrder.Version

/-!
# Tokens

A token is one decoded entry of a format text: a number of consecutive fields
of one kind.  Every sum and product of sizes is checked against `sizeLimit` and
refused when it would not fit.
-/

namespace WireOrder

/-- One entry of a format: `count` consecutive fields of the kind `field`. -/
structure Token where
  count : Nat
  field : Field
  deriving DecidableEq

namespace Token

/-- Number of bytes the token covers. -/
def length (token : Token) : Nat :=
  token.count * token.field.width

/-- Number of bytes the token covers, unless that is out of range. -/
def boundedLength? (token : Token) : Option Nat :=
  size? token.length

/-- The fields a token stands for, written out one by one. -/
def fields (token : Token) : List Field :=
  List.replicate token.count token.field

/-- The written form of a token, with its count always spelled out. -/
def text (token : Token) : String :=
  token.count.repr ++ token.field.code.toString

/-- A token in record notation. -/
def dump (token : Token) : String :=
  Text.record "Token"
    [("count", token.count.repr), ("field", token.field.label)]

theorem boundedLength?_of_count_lt {token : Token}
    (bounded : token.count < countLimit) :
    token.boundedLength? = some token.length := by
  have narrow := token.field.width_le_eight
  have product : token.length ≤ token.count * 8 :=
    Nat.mul_le_mul_left _ narrow
  have fits : token.length < sizeLimit := by
    unfold countLimit at bounded
    unfold sizeLimit
    omega
  simp [boundedLength?, size?, fits]

end Token

/-- All fields of a sequence of tokens, in order. -/
def fieldsOf (tokens : List Token) : List Field :=
  tokens.flatMap Token.fields

/-- The exact number of bytes a sequence of tokens covers. -/
def lengthOf : List Token → Nat
  | [] => 0
  | token :: tokens => token.length + lengthOf tokens

theorem fieldsOf_append (first second : List Token) :
    fieldsOf (first ++ second) = fieldsOf first ++ fieldsOf second :=
  List.flatMap_append

theorem lengthOf_append (first second : List Token) :
    lengthOf (first ++ second) = lengthOf first + lengthOf second := by
  induction first with
  | nil => simp [lengthOf]
  | cons token first ih => simp [lengthOf, ih, Nat.add_assoc]

end WireOrder
