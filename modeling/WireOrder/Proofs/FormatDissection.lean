import WireOrder.Fault
import WireOrder.Proofs.FormatGrammar

/-!
# Taking a malformed format apart

Every format falls into three parts: its longest well-formed beginning, all
digits that come next, and the rest.  If the format is malformed, the last two
say what is wrong with it and where.  Digits and type codes take one byte each,
so positions in bytes can be counted in characters up to that place.
-/

namespace WireOrder

theorem utf8ByteSize_ofList {characters : List Char}
    (narrow : ∀ character ∈ characters, character.utf8Size = 1) :
    (String.ofList characters).utf8ByteSize = characters.length := by
  induction characters with
  | nil => rfl
  | cons character characters ih =>
      obtain ⟨oneByte, laterNarrow⟩ := List.forall_mem_cons.mp narrow
      rw [String.ofList_cons, String.utf8ByteSize_append,
        String.utf8ByteSize_singleton, oneByte, ih laterNarrow,
        List.length_cons, Nat.add_comm]

theorem utf8Size_of_isDigit {character : Char}
    (digit : character.isDigit = true) : character.utf8Size = 1 := by
  rw [Char.utf8Size_eq_one_iff]
  simp only [Char.isDigit, Bool.and_eq_true, decide_eq_true_eq] at digit
  exact UInt32.le_trans digit.2 (by decide)

theorem utf8ByteSize_of_numeric {digits : String}
    (numeric : Numeric digits.toList) :
    digits.utf8ByteSize = digits.toList.length := by
  have counted := utf8ByteSize_ofList fun character member =>
    utf8Size_of_isDigit (numeric character member)
  rwa [String.ofList_toList] at counted

theorem utf8ByteSize_formatText {entries : List Entry}
    (valid : ∀ entry ∈ entries, entry.Valid) :
    (formatText entries).utf8ByteSize =
      (entries.flatMap Entry.text).length := by
  apply utf8ByteSize_ofList
  intro character member
  obtain ⟨entry, entryMember, member⟩ := List.mem_flatMap.mp member
  rcases List.mem_append.mp member with digit | code
  · exact utf8Size_of_isDigit ((valid entry entryMember).1 character digit)
  · rw [List.mem_singleton.mp code]
    exact entry.field.utf8Size_code

/-- A format cut in three: the entries that make up the longest beginning of
it that is well formed, all digits that come next, and the rest. -/
structure Dissection (format : String) where
  entries : List Entry
  digits : String
  rest : String
  valid : ∀ entry ∈ entries, entry.Valid
  text_eq : format = formatText entries ++ digits ++ rest
  longest : ∀ beginning ending, format = beginning ++ ending →
    WellFormed beginning →
    beginning.utf8ByteSize ≤ (formatText entries).utf8ByteSize
  numeric : Numeric digits.toList
  ended : NoDigitAhead rest.toList

namespace Dissection

variable {format : String}

/-- Cutting off entries up to a tail at which none begins cuts off as much as
possible. -/
def ofCut (entries : List Entry) (tail : List Char)
    (valid : ∀ entry ∈ entries, entry.Valid)
    (split : format = formatText entries ++ String.ofList tail)
    (stuck : ¬ EntryAhead tail) : Dissection format where
  entries := entries
  digits := String.ofList (tail.takeWhile Char.isDigit)
  rest := String.ofList (tail.dropWhile Char.isDigit)
  valid := valid
  text_eq := by
    rw [split, String.append_assoc, ← String.ofList_append,
      List.takeWhile_append_dropWhile]
  longest := by
    intro beginning ending cut wellFormed
    obtain ⟨others, othersValid, rfl⟩ := wellFormed
    have same := congrArg String.toList (cut.symm.trans split)
    simp only [String.toList_append, toList_formatText,
      String.toList_ofList] at same
    obtain ⟨more, rfl⟩ :=
      isPrefix_of_not_entryAhead othersValid valid stuck same
    rw [formatText_append, String.utf8ByteSize_append]
    exact Nat.le_add_right _ _
  numeric := by
    rw [String.toList_ofList]
    exact numeric_takeWhile tail
  ended := by
    rw [String.toList_ofList]
    exact noDigitAhead_dropWhile tail

theorem nonempty (format : String) : Nonempty (Dissection format) := by
  obtain ⟨entries, tail, valid, split, stuck⟩ := exists_cut format.toList
  refine ⟨ofCut entries tail valid ?_ stuck⟩
  apply String.ext
  rw [String.toList_append, toList_formatText, String.toList_ofList, split]

theorem toList_eq (dissection : Dissection format) :
    format.toList =
      dissection.entries.flatMap Entry.text ++
        (dissection.digits.toList ++ dissection.rest.toList) := by
  have same := congrArg String.toList dissection.text_eq
  rwa [String.toList_append, String.toList_append, toList_formatText,
    List.append_assoc] at same

theorem not_entryAhead (dissection : Dissection format) :
    ¬ EntryAhead
      (dissection.digits.toList ++ dissection.rest.toList) := by
  intro ahead
  obtain ⟨entry, later, entryValid, split⟩ := ahead
  have extended : format =
      formatText (dissection.entries ++ [entry]) ++ String.ofList later := by
    apply String.ext
    rw [dissection.toList_eq, split]
    simp
  have wellFormed :
      WellFormed (formatText (dissection.entries ++ [entry])) := by
    refine ⟨_, ?_, rfl⟩
    intro other member
    rcases List.mem_append.mp member with early | last
    · exact dissection.valid other early
    · rw [List.mem_singleton.mp last]
      exact entryValid
  have longer := dissection.longest _ _ extended wellFormed
  have lastLength : 0 < (formatText [entry]).utf8ByteSize := by
    rw [utf8ByteSize_formatText (by simpa using entryValid)]
    exact List.length_pos_iff.mpr (by simpa using entry.text_ne_nil)
  rw [formatText_append, String.utf8ByteSize_append] at longer
  omega

theorem eq_formatText_of_tail_nil (dissection : Dissection format)
    (exhausted :
      dissection.digits.toList ++ dissection.rest.toList = []) :
    format = formatText dissection.entries := by
  apply String.ext
  rw [dissection.toList_eq, exhausted, List.append_nil, toList_formatText]

theorem tail_ne_nil (dissection : Dissection format)
    (malformed : ¬ WellFormed format) :
    dissection.digits.toList ++ dissection.rest.toList ≠ [] := by
  intro exhausted
  apply malformed
  exact ⟨dissection.entries, dissection.valid,
    dissection.eq_formatText_of_tail_nil exhausted⟩

/-- What is wrong at the place of the type code, if there is none. -/
def codeFault (dissection : Dissection format) : Fault :=
  match dissection.rest.toList with
  | [] => .malformedFormat format.utf8ByteSize .missingTypeCode
  | character :: _ =>
      .malformedFormat
        ((formatText dissection.entries).utf8ByteSize +
          dissection.digits.utf8ByteSize)
        (.unknownTypeCode character)

/-- What is wrong with a malformed format, and at which of its bytes.  A count
out of range is reported before anything that comes after it. -/
def fault (dissection : Dissection format) : Fault :=
  let start := (formatText dissection.entries).utf8ByteSize
  let value := Nat.ofDigitChars 10 dissection.digits.toList 0
  if countLimit ≤ value then
    .malformedFormat start .countOverflow
  else if dissection.digits ≠ "" ∧ value = 0 then
    .malformedFormat start .zeroCount
  else
    dissection.codeFault

/-- Where reading is left off on a fault that some digits or what comes after
them give rise to: at the fault if a type code is missing or unknown, behind
the digits if they denote zero, and behind their longest beginning in range if
they denote too much. -/
inductive StopsAt (digits : List Char) : Fault → Nat → Prop where
  | missingTypeCode (position : Nat) :
      StopsAt digits (.malformedFormat position .missingTypeCode) position
  | unknownTypeCode (position : Nat) (character : Char) :
      StopsAt digits
        (.malformedFormat position (.unknownTypeCode character)) position
  | zeroCount (position : Nat) :
      StopsAt digits (.malformedFormat position .zeroCount)
        (position + digits.length)
  | countOverflow (position : Nat) {taken : List Char} :
      taken <+: digits →
      Nat.ofDigitChars 10 taken 0 < countLimit →
      (∀ beginning, beginning <+: digits →
        Nat.ofDigitChars 10 beginning 0 < countLimit →
        beginning.length ≤ taken.length) →
      StopsAt digits (.malformedFormat position .countOverflow)
        (position + taken.length)

theorem blamesFormat_codeFault (dissection : Dissection format) :
    dissection.codeFault.blamesFormat = true := by
  unfold codeFault
  split
  · rfl
  · rfl

theorem blamesFormat_fault (dissection : Dissection format) :
    dissection.fault.blamesFormat = true := by
  simp only [fault]
  split
  · rfl
  · split
    · rfl
    · exact dissection.blamesFormat_codeFault

theorem utf8ByteSize_eq (dissection : Dissection format) :
    format.utf8ByteSize =
      (formatText dissection.entries).utf8ByteSize +
        dissection.digits.utf8ByteSize + dissection.rest.utf8ByteSize := by
  have same := congrArg String.utf8ByteSize dissection.text_eq
  rwa [String.utf8ByteSize_append, String.utf8ByteSize_append] at same

theorem countOf_inRange (dissection : Dissection format)
    (small : ¬ countLimit ≤
      Nat.ofDigitChars 10 dissection.digits.toList 0)
    (positive : ¬ (dissection.digits ≠ "" ∧
      Nat.ofDigitChars 10 dissection.digits.toList 0 = 0)) :
    0 < countOf dissection.digits.toList ∧
      countOf dissection.digits.toList < countLimit := by
  by_cases written : dissection.digits = ""
  · rw [written]
    decide
  · have nonempty : dissection.digits.toList ≠ [] :=
      mt String.toList_eq_nil_iff.mp written
    rw [countOf_of_ne_nil nonempty]
    constructor
    · apply Nat.pos_of_ne_zero
      intro zero
      exact positive ⟨written, zero⟩
    · exact Nat.lt_of_not_le small

end Dissection

end WireOrder
