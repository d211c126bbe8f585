import WireOrder.Token

/-!
# The grammar of formats

A format is a concatenation of entries.  An entry is a run of decimal digits,
which may be empty, and a type code; the digits denote how many fields of the
kind follow one another, and an empty run denotes a single field.  Leading
zeros are allowed.

The grammar says which formats are well formed and what they mean without
saying how they are read.
-/

namespace WireOrder

/-- How many fields a run of digits before a type code asks for. -/
def countOf (digits : List Char) : Nat :=
  if digits = [] then 1 else Nat.ofDigitChars 10 digits 0

theorem countOf_of_ne_nil {digits : List Char} (written : digits ≠ []) :
    countOf digits = Nat.ofDigitChars 10 digits 0 :=
  if_neg written

/-- One entry as it is written. -/
structure Entry where
  /-- The digits of the count. -/
  digits : List Char
  field : Field
  deriving DecidableEq

namespace Entry

/-- The characters of the entry. -/
def text (entry : Entry) : List Char :=
  entry.digits ++ [entry.field.code]

/-- The number of fields the entry stands for. -/
def count (entry : Entry) : Nat :=
  countOf entry.digits

/-- What the entry stands for. -/
def token (entry : Entry) : Token :=
  ⟨entry.count, entry.field⟩

/-- An entry is valid if its count is a decimal numeral in range. -/
def Valid (entry : Entry) : Prop :=
  (∀ digit ∈ entry.digits, digit.isDigit) ∧
    0 < entry.count ∧ entry.count < countLimit

/-- An entry is canonical if its count is written out and begins with a digit
other than zero. -/
def Canonical (entry : Entry) : Prop :=
  entry.digits ≠ [] ∧ entry.digits.head? ≠ some '0'

instance (entry : Entry) : Decidable entry.Valid :=
  decidable_of_iff (entry.digits.all Char.isDigit ∧
      0 < entry.count ∧ entry.count < countLimit)
    (and_congr_left' List.all_eq_true)

/-- The canonical entry of a token. -/
def ofToken (token : Token) : Entry :=
  ⟨Nat.toDigits 10 token.count, token.field⟩

theorem text_ofToken (token : Token) :
    String.ofList (ofToken token).text = token.text := by
  simp [ofToken, text, Token.text, Nat.repr, String.ofList_append]

theorem token_ofToken (token : Token) :
    (ofToken token).token = token := by
  have written : Nat.toDigits 10 token.count ≠ [] := Nat.toDigits_ne_nil
  simp [ofToken, Entry.token, count, countOf_of_ne_nil written]

end Entry

/-- The format that consists of the given entries. -/
def formatText (entries : List Entry) : String :=
  String.ofList (entries.flatMap Entry.text)

/-- A format is well formed if it consists of valid entries. -/
def WellFormed (format : String) : Prop :=
  ∃ entries : List Entry,
    (∀ entry ∈ entries, entry.Valid) ∧ format = formatText entries

end WireOrder
