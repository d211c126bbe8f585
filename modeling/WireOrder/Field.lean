/-!
# Integer fields

A layout is made of unsigned integer fields of four widths.  Each kind of
field has a one-letter type code, by which format texts name it, and a width
in bytes, by which it is laid out.  `ofCode?` reads a code and `code` writes
it; the two are inverse to each other.
-/

namespace WireOrder

/-- The kinds of integer field, from one byte to eight. -/
inductive Field where
  | byte
  | short
  | int
  | long
  deriving DecidableEq

namespace Field

/-- Number of bytes one field of this kind takes. -/
def width : Field → Nat
  | byte => 1
  | short => 2
  | int => 4
  | long => 8

/-- The letter that stands for this kind in a format text. -/
def code : Field → Char
  | byte => 'b'
  | short => 's'
  | int => 'i'
  | long => 'l'

/-- The kind a type code stands for.  Only the four lower-case letters are
codes; look-alike letters of other scripts are not. -/
def ofCode? : Char → Option Field
  | 'b' => some byte
  | 's' => some short
  | 'i' => some int
  | 'l' => some long
  | _ => none

/-- Whether a field has only one byte order, so that no conversion changes
it. -/
def hasOneOrder : Field → Bool
  | byte => true
  | short | int | long => false

/-- The name of the unsigned integer type held by the field. -/
def name : Field → String
  | byte => "u8"
  | short => "u16"
  | int => "u32"
  | long => "u64"

/-- The name of the kind itself. -/
def label : Field → String
  | byte => "Byte"
  | short => "Short"
  | int => "Int"
  | long => "Long"

@[simp] theorem ofCode?_code (field : Field) :
    ofCode? field.code = some field := by
  cases field <;> rfl

theorem ofCode?_eq_some_iff {character : Char} {field : Field} :
    ofCode? character = some field ↔ character = field.code := by
  constructor
  · intro accepted
    unfold ofCode? at accepted
    split at accepted <;> simp_all [code] <;> subst accepted <;> rfl
  · intro equality
    rw [equality, ofCode?_code]

theorem width_pos (field : Field) : 0 < field.width := by
  cases field <;> decide

theorem width_le_eight (field : Field) : field.width ≤ 8 := by
  cases field <;> decide

/-- The type codes in ascending order of their characters. -/
def codes : List Char :=
  ['b', 'i', 'l', 's']

/-- The type codes among the characters from `low` to `high`, both included,
in ascending order. -/
def codesBetween (low high : Nat) : List Char :=
  codes.filter fun character =>
    decide (low ≤ character.toNat ∧ character.toNat ≤ high)

theorem mem_codes_iff {character : Char} :
    character ∈ codes ↔ (ofCode? character).isSome := by
  constructor
  · intro member
    simp only [codes, List.mem_cons, List.not_mem_nil, or_false] at member
    rcases member with rfl | rfl | rfl | rfl <;> rfl
  · intro accepted
    obtain ⟨field, equality⟩ := Option.isSome_iff_exists.mp accepted
    rw [ofCode?_eq_some_iff.mp equality]
    cases field <;> decide

/-- The total width of one field for each type code in a text that consists
of nothing but type codes. -/
def widthOfCodes? (text : String) : Option Nat :=
  text.toList.foldlM
    (fun total character => (ofCode? character).map (total + ·.width)) 0

end Field

end WireOrder
