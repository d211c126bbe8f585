import WireOrder.Proofs.LayoutGrammar

/-!
# The canonical text of a layout

A layout can be read from many formats, since counts may be left out or begin
with zeros.  Among them is exactly one that does neither, because a number has
only one numeral without leading zeros and a format only one way to be cut into
entries.  That one is the text of the layout.
-/

namespace WireOrder

/-! ## Numerals without leading zeros -/

theorem toDigits_of_isDigit {digit : Char} (isDigit : digit.isDigit) :
    digit.toNat - '0'.toNat < 10 ∧
      Nat.toDigits 10 (digit.toNat - '0'.toNat) = [digit] := by
  have bounds : 48 ≤ digit.toNat ∧ digit.toNat ≤ 57 :=
    Char.isDigit_iff_toNat.mp isDigit
  have small : digit.toNat - 48 < 10 := by omega
  have written : Nat.digitChar (digit.toNat - 48) = digit := by
    apply Char.toNat_inj.mp
    rw [Nat.toNat_digitChar_of_lt_ten small]
    omega
  refine ⟨small, (Nat.toDigits_of_lt_base small).trans ?_⟩
  exact congrArg (fun character => [character]) written

theorem toDigits_ofDigitChars_of_pos {digits : List Char} {value : Nat}
    (numeric : Numeric digits) (positive : 0 < value) :
    Nat.toDigits 10 (Nat.ofDigitChars 10 digits value) =
      Nat.toDigits 10 value ++ digits := by
  induction digits generalizing value with
  | nil => exact (List.append_nil _).symm
  | cons digit digits ih =>
      obtain ⟨isDigit, laterNumeric⟩ := List.forall_mem_cons.mp numeric
      obtain ⟨small, written⟩ := toDigits_of_isDigit isDigit
      have longer : 0 < 10 * value + (digit.toNat - '0'.toNat) := by omega
      calc
        Nat.toDigits 10 (Nat.ofDigitChars 10 (digit :: digits) value) =
            Nat.toDigits 10 (10 * value + (digit.toNat - '0'.toNat)) ++
              digits := by
          rw [Nat.ofDigitChars_cons, ih laterNumeric longer]
        _ = (Nat.toDigits 10 value ++ [digit]) ++ digits := by
          rw [← Nat.toDigits_append_toDigits (by decide) positive small,
            written]
        _ = Nat.toDigits 10 value ++ digit :: digits := by simp

/-- A numeral without leading zeros is the one that is written for its
value. -/
theorem toDigits_ofDigitChars {digits : List Char} (numeric : Numeric digits)
    (written : digits ≠ []) (noZero : digits.head? ≠ some '0') :
    Nat.toDigits 10 (Nat.ofDigitChars 10 digits 0) = digits := by
  cases digits with
  | nil => exact absurd rfl written
  | cons digit digits =>
      obtain ⟨isDigit, laterNumeric⟩ := List.forall_mem_cons.mp numeric
      obtain ⟨_, firstWritten⟩ := toDigits_of_isDigit isDigit
      have positive : 0 < digit.toNat - '0'.toNat := by
        have lower := (Char.isDigit_iff_toNat.mp isDigit).1
        have other : digit.toNat ≠ '0'.toNat := by
          intro same
          exact noZero (congrArg some (Char.toNat_inj.mp same))
        omega
      rw [Nat.ofDigitChars_cons, Nat.mul_zero, Nat.zero_add,
        toDigits_ofDigitChars_of_pos laterNumeric positive, firstWritten]
      rfl

theorem head?_toDigits_ne_zero {number : Nat} (positive : 0 < number) :
    (Nat.toDigits 10 number).head? ≠ some '0' := by
  induction number using Nat.strongRecOn with
  | ind number ih =>
      by_cases small : number < 10
      · rw [Nat.toDigits_of_lt_base small]
        intro zero
        have vanishing := Nat.digitChar_eq_zero.mp (Option.some.inj zero)
        omega
      · have shorter : number / 10 < number := by omega
        have stillPositive : 0 < number / 10 := by omega
        have begins := ih (number / 10) shorter stillPositive
        obtain ⟨first, rest, split⟩ := List.exists_cons_of_ne_nil
          (Nat.toDigits_ne_nil : Nat.toDigits 10 (number / 10) ≠ [])
        rw [split] at begins
        rw [Nat.toDigits_of_base_le (by decide) (Nat.le_of_not_lt small),
          split]
        exact begins

/-! ## Canonical entries and formats -/

namespace Entry

theorem canonical_ofToken {token : Token} (positive : 0 < token.count) :
    (ofToken token).Canonical :=
  ⟨Nat.toDigits_ne_nil, head?_toDigits_ne_zero positive⟩

/-- A canonical entry is determined by what it stands for. -/
theorem ofToken_token {entry : Entry} (valid : entry.Valid)
    (canonical : entry.Canonical) : ofToken entry.token = entry := by
  obtain ⟨digits, field⟩ := entry
  obtain ⟨written, noZero⟩ := canonical
  have sameDigits : Nat.toDigits 10 (countOf digits) = digits := by
    rw [countOf_of_ne_nil written]
    exact toDigits_ofDigitChars valid.1 written noZero
  exact congrArg (Entry.mk · field) sameDigits

end Entry

/-- The format is a concatenation of valid entries that all write their count
out and without a leading zero. -/
def CanonicalForm (format : String) : Prop :=
  ∃ entries, ConsistsOf format entries ∧ ∀ entry ∈ entries, entry.Canonical

namespace Layout

variable {format : String} {layout : Layout}

theorem canonicalForm_text (parsed : parse format = .ok layout) :
    CanonicalForm layout.text := by
  refine ⟨_, consistsOf_text parsed, ?_⟩
  intro entry member
  obtain ⟨token, tokenMember, rfl⟩ := List.mem_map.mp member
  exact Entry.canonical_ofToken
    (count_inRange_of_parse parsed token tokenMember).1

theorem text_eq_of_canonicalForm (parsed : parse format = .ok layout)
    (canonical : CanonicalForm format) : layout.text = format := by
  obtain ⟨entries, cut, everyCanonical⟩ := canonical
  obtain ⟨others, othersCut, tokensEquality, _⟩ :=
    parse_eq_ok_iff_consistsOf.mp parsed
  have rewritten : (entries.map Entry.token).map Entry.ofToken = entries := by
    calc
      (entries.map Entry.token).map Entry.ofToken = entries.map id := by
        rw [List.map_map]
        apply List.map_congr_left
        intro entry member
        exact Entry.ofToken_token (cut.valid entry member)
          (everyCanonical entry member)
      _ = entries := List.map_id entries
  calc
    layout.text =
        formatText (layout.tokens.toList.map Entry.ofToken) :=
      (consistsOf_text parsed).text_eq
    _ = formatText entries := by
      rw [tokensEquality, ← cut.unique othersCut, rewritten]
    _ = format := cut.text_eq.symm

end Layout

/-- The text of a layout is the format that the layout was read from exactly if
that format is in canonical form.  It is the only format in canonical form that
the layout is read from. -/
theorem text_is_the_canonical_format (format : String) (layout : Layout)
    (parsed : Layout.parse format = .ok layout) :
    (layout.text = format ↔ CanonicalForm format) ∧
      ∀ other, CanonicalForm other ∧ Layout.parse other = .ok layout ↔
        other = layout.text := by
  constructor
  · constructor
    · intro same
      rw [← same]
      exact Layout.canonicalForm_text parsed
    · exact Layout.text_eq_of_canonicalForm parsed
  · intro other
    constructor
    · intro candidate
      obtain ⟨canonical, otherParsed⟩ := candidate
      exact (Layout.text_eq_of_canonicalForm otherParsed canonical).symm
    · intro same
      subst same
      exact ⟨Layout.canonicalForm_text parsed, Layout.parse_text parsed⟩

/-- Of the formats of this layout only the one that writes both counts out is
canonical. -/
theorem text_is_the_canonical_format_of_two_entries :
    Layout.parse "10b1i" = .ok ⟨#[⟨10, .byte⟩, ⟨1, .int⟩], 14⟩ ∧
      CanonicalForm "10b1i" ∧
      ¬ CanonicalForm "10bi" ∧
      ∀ other, CanonicalForm other ∧
          Layout.parse other = .ok ⟨#[⟨10, .byte⟩, ⟨1, .int⟩], 14⟩ ↔
        other = "10b1i" := by
  have written : Layout.text ⟨#[⟨10, .byte⟩, ⟨1, .int⟩], 14⟩ = "10b1i" := by
    decide +kernel
  have parsed :
      Layout.parse "10b1i" = .ok ⟨#[⟨10, .byte⟩, ⟨1, .int⟩], 14⟩ :=
    Layout.parse_eq_ok_iff.mpr (by decide +kernel)
  have shortParsed :
      Layout.parse "10bi" = .ok ⟨#[⟨10, .byte⟩, ⟨1, .int⟩], 14⟩ :=
    Layout.parse_eq_ok_iff.mpr (by decide +kernel)
  obtain ⟨canonicalIff, unique⟩ :=
    text_is_the_canonical_format "10b1i" _ parsed
  rw [written] at canonicalIff unique
  have canonical := canonicalIff.mp rfl
  refine ⟨parsed, canonical, ?_, unique⟩
  intro shortCanonical
  have same := (unique "10bi").mp ⟨shortCanonical, shortParsed⟩
  exact absurd same (by decide)

end WireOrder
