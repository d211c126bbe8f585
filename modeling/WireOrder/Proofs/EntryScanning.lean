import WireOrder.Cursor
import WireOrder.Proofs.FormatGrammar

/-!
# Scanning one entry

What is scanned at a place is settled by the run of digits there and by what
comes after the run.  The value of a numeral only grows as digits are added,
so it is in range exactly if no beginning of it is out of range; that is why a
check at every digit amounts to one check of the whole.
-/

namespace WireOrder

theorem le_ofDigitChars (digits : List Char) (value : Nat) :
    value ≤ Nat.ofDigitChars 10 digits value := by
  induction digits generalizing value with
  | nil => exact Nat.le_refl value
  | cons digit digits ih =>
      rw [Nat.ofDigitChars_cons]
      have grown := ih (10 * value + (digit.toNat - '0'.toNat))
      omega

/-- A beginning of a numeral that is in range is not longer than one that the
next digit takes out of range. -/
theorem length_le_of_ofDigitChars_lt {digits beginning taken : List Char}
    {digit : Char} (begins : beginning <+: digits)
    (small : Nat.ofDigitChars 10 beginning 0 < countLimit)
    (continued : taken ++ [digit] <+: digits)
    (exceeded : countLimit ≤ Nat.ofDigitChars 10 (taken ++ [digit]) 0) :
    beginning.length ≤ taken.length := by
  apply Nat.le_of_not_lt
  intro beyond
  have covered : taken ++ [digit] <+: beginning := by
    apply List.prefix_of_prefix_length_le continued begins
    rw [List.length_append]
    exact beyond
  obtain ⟨more, rfl⟩ := covered
  rw [Nat.ofDigitChars_append] at small
  have grown := le_ofDigitChars more
    (Nat.ofDigitChars 10 (taken ++ [digit]) 0)
  exact Nat.not_lt_of_le (Nat.le_trans exceeded grown) small

namespace Cursor

variable {digits rest : List Char} {position : Nat}

theorem numeral_of_lt (origin : Nat) {value : Nat}
    (numeric : Numeric digits) (ended : NoDigitAhead rest)
    (small : Nat.ofDigitChars 10 digits value < countLimit) :
    numeral origin value (digits ++ rest) position =
      .read (Nat.ofDigitChars 10 digits value)
        ⟨rest, position + digits.length⟩ := by
  -- The value only grows from digit to digit, so the bound on the whole
  -- numeral is a bound at every step.
  induction digits generalizing value position with
  | nil =>
      cases rest with
      | nil => rfl
      | cons character rest =>
          have stop : character.isDigit = false := ended character rfl
          simp [numeral, stop]
  | cons digit digits ih =>
      obtain ⟨isDigit, laterNumeric⟩ := List.forall_mem_cons.mp numeric
      rw [Nat.ofDigitChars_cons] at small ⊢
      have stepSmall :
          10 * value + (digit.toNat - '0'.toNat) < countLimit :=
        Nat.lt_of_le_of_lt (le_ofDigitChars digits _) small
      rw [List.cons_append, numeral, if_pos isDigit]
      dsimp only
      rw [if_pos stepSmall, ih laterNumeric small, List.length_cons,
        Nat.add_right_comm, Nat.add_assoc]

theorem numeral_of_overflow (origin : Nat) {value : Nat}
    (numeric : Numeric digits) (begun : value < countLimit)
    (large : countLimit ≤ Nat.ofDigitChars 10 digits value) :
    ∃ taken digit left, digits = taken ++ digit :: left ∧
      Nat.ofDigitChars 10 taken value < countLimit ∧
      countLimit ≤ Nat.ofDigitChars 10 (taken ++ [digit]) value ∧
      numeral origin value (digits ++ rest) position =
        .stuck (.malformedFormat origin .countOverflow)
          ⟨digit :: left ++ rest, position + taken.length⟩ := by
  induction digits generalizing value position with
  | nil => exact absurd begun (Nat.not_lt_of_le large)
  | cons digit digits ih =>
      obtain ⟨isDigit, laterNumeric⟩ := List.forall_mem_cons.mp numeric
      rw [Nat.ofDigitChars_cons] at large
      rw [List.cons_append, numeral, if_pos isDigit]
      dsimp only
      by_cases stepSmall :
          10 * value + (digit.toNat - '0'.toNat) < countLimit
      · obtain ⟨taken, last, left, split, small, exceeded, stopped⟩ :=
          ih laterNumeric stepSmall large
        refine ⟨digit :: taken, last, left, ?_, ?_, ?_, ?_⟩
        · rw [split, List.cons_append]
        · rwa [Nat.ofDigitChars_cons]
        · rwa [List.cons_append, Nat.ofDigitChars_cons]
        · rw [if_pos stepSmall, stopped, List.length_cons,
            Nat.add_right_comm, Nat.add_assoc]
      · refine ⟨[], digit, digits, rfl, begun, ?_, ?_⟩
        · rw [List.nil_append, Nat.ofDigitChars_cons, Nat.ofDigitChars_nil]
          exact Nat.le_of_not_lt stepSmall
        · rw [if_neg stepSmall]
          rfl

theorem scanCount_of_inRange (position : Nat)
    (numeric : Numeric digits) (ended : NoDigitAhead rest)
    (positive : 0 < countOf digits) (small : countOf digits < countLimit) :
    ∃ count, scanCount ⟨digits ++ rest, position⟩ =
        .read count ⟨rest, position + digits.length⟩ ∧
      count.getD 1 = countOf digits := by
  by_cases written : digits = []
  · subst written
    refine ⟨none, ?_, rfl⟩
    rw [scanCount, numeral_of_lt position numeric ended (by decide)]
    simp
  · rw [countOf_of_ne_nil written] at positive small ⊢
    refine ⟨some (Nat.ofDigitChars 10 digits 0), ?_, rfl⟩
    have moved : ¬ position + digits.length = position := by
      have nonempty := List.length_pos_iff.mpr written
      omega
    rw [scanCount, numeral_of_lt position numeric ended small]
    simp only [if_neg moved, if_neg (Nat.ne_of_gt positive)]

theorem scanCount_of_zero (position : Nat)
    (numeric : Numeric digits) (ended : NoDigitAhead rest)
    (written : digits ≠ []) (zero : Nat.ofDigitChars 10 digits 0 = 0) :
    scanCount ⟨digits ++ rest, position⟩ =
      .stuck (.malformedFormat position .zeroCount)
        ⟨rest, position + digits.length⟩ := by
  have moved : ¬ position + digits.length = position := by
    have nonempty := List.length_pos_iff.mpr written
    omega
  have small : Nat.ofDigitChars 10 digits 0 < countLimit := by
    rw [zero]
    decide
  rw [scanCount, numeral_of_lt position numeric ended small]
  simp only [if_neg moved, if_pos zero]

theorem scanCount_of_overflow (position : Nat)
    (numeric : Numeric digits)
    (large : countLimit ≤ Nat.ofDigitChars 10 digits 0) :
    ∃ taken digit left, digits = taken ++ digit :: left ∧
      Nat.ofDigitChars 10 taken 0 < countLimit ∧
      countLimit ≤ Nat.ofDigitChars 10 (taken ++ [digit]) 0 ∧
      scanCount ⟨digits ++ rest, position⟩ =
        .stuck (.malformedFormat position .countOverflow)
          ⟨digit :: left ++ rest, position + taken.length⟩ := by
  obtain ⟨taken, digit, left, split, small, exceeded, stopped⟩ :=
    numeral_of_overflow position numeric (by decide) large
  refine ⟨taken, digit, left, split, small, exceeded, ?_⟩
  rw [scanCount, stopped]

theorem scanEntry_of_scanCount_stuck {cursor place : Cursor} {fault : Fault}
    (stopped : scanCount cursor = .stuck fault place) :
    scanEntry cursor = .stuck fault place := by
  rw [scanEntry, stopped]

/-- A valid entry is read as its token, whatever comes after it. -/
theorem scanEntry_text {entry : Entry} (valid : entry.Valid) :
    scanEntry ⟨entry.text ++ rest, position⟩ =
      .read entry.token ⟨rest, position + entry.text.length⟩ := by
  obtain ⟨numeric, positive, small⟩ := valid
  obtain ⟨count, counted, countEquality⟩ :=
    scanCount_of_inRange position numeric
      (noDigitAhead_code entry.field rest) positive small
  rw [Entry.text_append, scanEntry, counted]
  simp only [scanCode, Field.ofCode?_code, countEquality,
    Field.utf8Size_code, Entry.token, Entry.count, Entry.text,
    List.length_append, List.length_singleton, Nat.add_assoc]

theorem scanEntry_of_end (position : Nat)
    (numeric : Numeric digits) (positive : 0 < countOf digits)
    (small : countOf digits < countLimit) :
    scanEntry ⟨digits, position⟩ =
      .stuck (.malformedFormat (position + digits.length) .missingTypeCode)
        ⟨[], position + digits.length⟩ := by
  have ended : NoDigitAhead [] := by
    intro character member
    cases member
  obtain ⟨count, counted, _⟩ :=
    scanCount_of_inRange position numeric ended positive small
  rw [List.append_nil] at counted
  rw [scanEntry, counted]
  rfl

theorem scanEntry_of_not_code (position : Nat) {character : Char}
    (numeric : Numeric digits) (ended : NoDigitAhead (character :: rest))
    (positive : 0 < countOf digits) (small : countOf digits < countLimit)
    (notCode : Field.ofCode? character = none) :
    scanEntry ⟨digits ++ character :: rest, position⟩ =
      .stuck (.malformedFormat (position + digits.length)
          (.unknownTypeCode character))
        ⟨character :: rest, position + digits.length⟩ := by
  obtain ⟨count, counted, _⟩ :=
    scanCount_of_inRange position numeric ended positive small
  rw [scanEntry, counted]
  simp only [scanCode, notCode]

end Cursor

end WireOrder
