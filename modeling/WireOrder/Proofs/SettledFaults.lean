import WireOrder.Proofs.LayoutLength

/-!
# Faults that no further text revises

A fault is noticed as soon as what has been read settles it, so most faults
stay as they are when more text is added to the format.  There are two
exceptions: a type code that is missing may still follow, and a count that is
zero so far may still get more digits, unless something else comes after its
zeros.

Everything that reads a format takes its items in one by one.  It can
therefore only be revised by more text where the items are.
-/

namespace WireOrder

/-! ## Consumers of more items -/

/-- A sequence of items may go on where another one has ended.  The values
before the first fault stay, and a fault that is settled ends the longer
sequence too. -/
structure GoesOn (settled : Fault → Prop)
    (items longer : List (Except Fault α)) : Prop where
  begins : ∃ later, longer = (leading items).map .ok ++ later
  ended : ∀ fault, firstFault? items = some fault → settled fault →
    longer = items

namespace GoesOn

variable {α β σ : Type} {settled : Fault → Prop}
  {items longer : List (Except Fault α)}

theorem map (goesOn : GoesOn settled items longer) (function : α → β) :
    GoesOn settled (items.map (Except.map function))
      (longer.map (Except.map function)) := by
  constructor
  · obtain ⟨later, rfl⟩ := goesOn.begins
    refine ⟨later.map (Except.map function), ?_⟩
    rw [leading_map, List.map_append, List.map_map, List.map_map]
    rfl
  · intro fault faulted isSettled
    rw [firstFault?_map] at faulted
    exact congrArg _ (goesOn.ended fault faulted isSettled)

/-- A consumer that a settled fault stops is stopped in the same state by the
longer sequence. -/
theorem takeIn_eq (goesOn : GoesOn settled items longer)
    {absorb : σ → α → σ × Option Fault} {state : σ} {fault : Fault}
    (stopped : (takeIn absorb state items).fault = some fault)
    (isSettled : settled fault) :
    takeIn absorb state longer = takeIn absorb state items := by
  have throughLeading := Intake.takeIn_eq_takeIn_leading absorb state items
  cases early : (takeIn absorb state ((leading items).map .ok)).fault with
  | none =>
      -- The consumer has refused nothing, so the fault is among the items.
      have faulted : firstFault? items = some fault := by
        simpa only [throughLeading, early, Option.none_or] using stopped
      exact congrArg _ (goesOn.ended fault faulted isSettled)
  | some refusal =>
      obtain ⟨later, rfl⟩ := goesOn.begins
      rw [Intake.takeIn_append, throughLeading]
      simp only [early, Option.some_or]
      rw [← early]

theorem result_eq_error (goesOn : GoesOn settled items longer)
    {absorb : σ → α → σ × Option Fault} {state : σ} {fault : Fault}
    (refused : (takeIn absorb state items).result = .error fault)
    (isSettled : settled fault) :
    (takeIn absorb state longer).result = .error fault := by
  have stopped := Intake.result_eq_error_iff.mp refused
  rw [goesOn.takeIn_eq stopped isSettled, refused]

end GoesOn

/-! ## What settles a fault -/

/-- The digits at the given byte of the format end before the format does. -/
def DigitsEndInside (format : String) (position : Nat) : Prop :=
  ∃ front digits back : String, format = front ++ digits ++ back ∧
    front.utf8ByteSize = position ∧ Numeric digits.toList ∧
    NoDigitAhead back.toList ∧ back ≠ ""

/-- The fault stays as it is when the given text comes behind the format. -/
def Fault.SettledBefore (format more : String) : Fault → Prop
  | .bufferTooShort _ _ _ => True
  | .malformedFormat _ .missingTypeCode => False
  | .malformedFormat _ (.unknownTypeCode _) => True
  | .malformedFormat _ .countOverflow => True
  | .malformedFormat position .zeroCount =>
      DigitsEndInside format position ∨ NoDigitAhead more.toList

theorem append_inj_of_utf8ByteSize {first second firstRest secondRest : String}
    (same : first ++ firstRest = second ++ secondRest)
    (sameSize : first.utf8ByteSize = second.utf8ByteSize) :
    first = second ∧ firstRest = secondRest := by
  have sameBytes := congrArg String.toByteArray same
  rw [String.toByteArray_append, String.toByteArray_append] at sameBytes
  have beginning : first = second :=
    String.toByteArray_inj.mp (ByteArray.append_inj_left sameBytes sameSize)
  subst beginning
  exact ⟨rfl, (String.append_right_inj first).mp same⟩

theorem noDigitAhead_append {rest more : List Char}
    (ended : NoDigitAhead rest) (settled : rest ≠ [] ∨ NoDigitAhead more) :
    NoDigitAhead (rest ++ more) := by
  cases rest with
  | nil =>
      rcases settled with nonempty | moreEnded
      · exact absurd rfl nonempty
      · exact moreEnded
  | cons character rest => exact ended

/-! ## Readings of a longer format -/

/-- The readings of entries that stand one after the other from a byte on. -/
def entryReadings : Nat → List Entry → List Reading
  | _, [] => []
  | position, entry :: entries =>
      ⟨entry.token, position + entry.text.length⟩ ::
        entryReadings (position + entry.text.length) entries

namespace Tokenizer

theorem readings_of_next_none {before after : Tokenizer}
    (silent : before.next = (none, after)) : before.readings = [] := by
  rw [readings, steps_of_next_none silent, List.map_nil]

theorem readings_of_next_some {before after : Tokenizer} {item : Item}
    (yielded : before.next = (some item, after)) :
    before.readings =
      item.map (fun token => ⟨token, after.position⟩) :: after.readings := by
  rw [readings, steps_of_next_some yielded, List.map_cons, readings]

theorem readings_of_entries (format : String) {entries : List Entry}
    (valid : ∀ entry ∈ entries, entry.Valid)
    (rest : List Char) (position : Nat) :
    (Tokenizer.mk format
        ⟨entries.flatMap Entry.text ++ rest, position⟩ false).readings =
      (entryReadings position entries).map .ok ++
        (Tokenizer.mk format
          ⟨rest, position + (entries.flatMap Entry.text).length⟩
          false).readings := by
  induction entries generalizing position with
  | nil => rfl
  | cons entry entries ih =>
      obtain ⟨entryValid, laterValid⟩ := List.forall_mem_cons.mp valid
      rw [List.flatMap_cons, List.append_assoc,
        readings_of_next_some (next_of_entry format entryValid _ position),
        ih laterValid, List.length_append, ← Nat.add_assoc]
      rfl

theorem readings_of_scanEntry_stuck {format : String} {cursor place : Cursor}
    {fault : Fault} (remaining : cursor.rest ≠ [])
    (scanned : cursor.scanEntry = .stuck fault place) :
    (Tokenizer.mk format cursor false).readings = [.error fault] := by
  rw [readings_of_next_some (next_of_scanEntry_stuck remaining scanned),
    readings_of_next_none (next_of_failed rfl)]
  rfl

end Tokenizer

namespace Dissection

variable {format : String}

/-- The digits behind the longest well-formed beginning are the ones at the
place where a zero count is reported. -/
theorem rest_ne_nil_of_digitsEndInside (dissection : Dissection format)
    (inside : DigitsEndInside format
      (formatText dissection.entries).utf8ByteSize) :
    dissection.rest.toList ≠ [] := by
  obtain ⟨front, digits, back, split, counted, numeric, ended, nonempty⟩ :=
    inside
  have same := dissection.text_eq.symm.trans split
  rw [String.append_assoc, String.append_assoc] at same
  have sameTail := (append_inj_of_utf8ByteSize same counted.symm).2
  have sameCharacters := congrArg String.toList sameTail
  rw [String.toList_append, String.toList_append] at sameCharacters
  have sameRest := (numeric_append_inj dissection.numeric dissection.ended
    numeric ended sameCharacters).2
  rw [sameRest]
  exact mt String.toList_eq_nil_iff.mp nonempty

/-- A settled fault is noticed at its place whatever text comes behind. -/
theorem scanEntry_append_of_settled (dissection : Dissection format)
    {more : String} (settled : dissection.fault.SettledBefore format more) :
    ∃ place, Cursor.scanEntry
        ⟨dissection.digits.toList ++ (dissection.rest.toList ++ more.toList),
          (formatText dissection.entries).utf8ByteSize⟩ =
        .stuck dissection.fault place := by
  have numeric := dissection.numeric
  have ended := dissection.ended
  by_cases large :
      countLimit ≤ Nat.ofDigitChars 10 dissection.digits.toList 0
  · obtain ⟨_, _, _, _, _, _, stopped⟩ :=
      Cursor.scanCount_of_overflow _ numeric large
    simp only [fault, if_pos large]
    exact ⟨_, Cursor.scanEntry_of_scanCount_stuck stopped⟩
  · by_cases zero : dissection.digits ≠ "" ∧
        Nat.ofDigitChars 10 dissection.digits.toList 0 = 0
    · simp only [fault, if_neg large, if_pos zero] at settled ⊢
      have endedAgain :
          NoDigitAhead (dissection.rest.toList ++ more.toList) := by
        apply noDigitAhead_append ended
        exact settled.imp_left dissection.rest_ne_nil_of_digitsEndInside
      have stopped := Cursor.scanCount_of_zero
        (formatText dissection.entries).utf8ByteSize numeric endedAgain
        (mt String.toList_eq_nil_iff.mp zero.1) zero.2
      exact ⟨_, Cursor.scanEntry_of_scanCount_stuck stopped⟩
    · obtain ⟨positive, small⟩ := dissection.countOf_inRange large zero
      have stuck := dissection.not_entryAhead
      rw [entryAhead_append_iff numeric ended] at stuck
      simp only [fault, if_neg large, if_neg zero, codeFault] at settled ⊢
      cases remaining : dissection.rest.toList with
      | nil =>
          rw [remaining] at settled
          exact settled.elim
      | cons character rest =>
          rw [remaining] at ended stuck
          have notCode : Field.ofCode? character = none := by
            cases decoded : Field.ofCode? character with
            | none => rfl
            | some field =>
                exact absurd ⟨⟨positive, small⟩, by simp [decoded]⟩ stuck
          rw [utf8ByteSize_of_numeric numeric]
          exact ⟨_, Cursor.scanEntry_of_not_code _ numeric ended positive
            small notCode⟩

theorem readings_append (dissection : Dissection format) (more : String) :
    (Tokenizer.ofString (format ++ more)).readings =
      (entryReadings 0 dissection.entries).map .ok ++
        (Tokenizer.mk (format ++ more)
          ⟨dissection.digits.toList ++
              (dissection.rest.toList ++ more.toList),
            (formatText dissection.entries).utf8ByteSize⟩
          false).readings := by
  have text : (format ++ more).toList =
      dissection.entries.flatMap Entry.text ++
        (dissection.digits.toList ++
          (dissection.rest.toList ++ more.toList)) := by
    rw [String.toList_append, dissection.toList_eq, List.append_assoc,
      List.append_assoc]
  have read := Tokenizer.readings_of_entries (format ++ more)
    dissection.valid
    (dissection.digits.toList ++ (dissection.rest.toList ++ more.toList)) 0
  rw [← text, Nat.zero_add, ← utf8ByteSize_formatText dissection.valid]
    at read
  exact read

theorem readings_eq (dissection : Dissection format) :
    (Tokenizer.ofString format).readings =
      (entryReadings 0 dissection.entries).map .ok ++
        (Tokenizer.mk format
          ⟨dissection.digits.toList ++ dissection.rest.toList,
            (formatText dissection.entries).utf8ByteSize⟩
          false).readings := by
  have alone := dissection.readings_append ""
  simpa only [String.append_empty, String.toList_empty, List.append_nil]
    using alone

theorem readings_of_tail_nil (dissection : Dissection format)
    (exhausted :
      dissection.digits.toList ++ dissection.rest.toList = []) :
    (Tokenizer.ofString format).readings =
      (entryReadings 0 dissection.entries).map .ok := by
  rw [dissection.readings_eq, exhausted,
    Tokenizer.readings_of_next_none (Tokenizer.next_of_rest_nil rfl),
    List.append_nil]

theorem readings_of_tail_ne_nil (dissection : Dissection format)
    (remaining :
      dissection.digits.toList ++ dissection.rest.toList ≠ []) :
    (Tokenizer.ofString format).readings =
      (entryReadings 0 dissection.entries).map .ok ++
        [.error dissection.fault] := by
  obtain ⟨place, stuck, _⟩ := dissection.scanEntry_eq
  rw [dissection.readings_eq,
    Tokenizer.readings_of_scanEntry_stuck remaining stuck]

end Dissection

theorem Tokenizer.goesOn_readings (format more : String) :
    GoesOn (Fault.SettledBefore format more)
      (ofString format).readings (ofString (format ++ more)).readings := by
  obtain ⟨dissection⟩ := Dissection.nonempty format
  have longer := dissection.readings_append more
  by_cases exhausted :
      dissection.digits.toList ++ dissection.rest.toList = []
  · have whole := dissection.readings_of_tail_nil exhausted
    constructor
    · rw [whole, leading_map_ok]
      exact ⟨_, longer⟩
    · intro fault faulted
      rw [whole, firstFault?_map_ok] at faulted
      cases faulted
  · have whole := dissection.readings_of_tail_ne_nil exhausted
    constructor
    · rw [whole, leading_map_ok_append, leading, List.append_nil]
      exact ⟨_, longer⟩
    · intro fault faulted settled
      rw [whole, firstFault?_map_ok_append] at faulted
      cases faulted
      obtain ⟨place, stopped⟩ :=
        dissection.scanEntry_append_of_settled settled
      have remaining : dissection.digits.toList ++
          (dissection.rest.toList ++ more.toList) ≠ [] := by
        intro nothing
        rw [← List.append_assoc] at nothing
        exact exhausted (List.append_eq_nil_iff.mp nothing).1
      rw [longer, whole, readings_of_scanEntry_stuck remaining stopped]

theorem Tokenizer.goesOn_items (format more : String) :
    GoesOn (Fault.SettledBefore format more)
      (ofString format).items (ofString (format ++ more)).items := by
  rw [items_eq_map_readings, items_eq_map_readings]
  exact (goesOn_readings format more).map Reading.token

/-- A fault that is settled is final.  A conversion, the reading of a layout
and the computation of a length end with the same fault when more text comes
behind the format that they have failed under, and the conversion leaves the
same bytes.  A field that overruns the buffer, an unknown type code and an
overflow are always settled, a zero count if its digits end inside the format
or no digit comes behind it. -/
theorem settled_fault_is_final (format more : String) (fault : Fault)
    (settled : fault.SettledBefore format more) :
    (∀ direction buffer,
      (convert direction format buffer).fault = some fault →
      convert direction (format ++ more) buffer =
        convert direction format buffer) ∧
    (Layout.parse format = .error fault →
      Layout.parse (format ++ more) = .error fault) ∧
    (formatLength format = .error fault →
      formatLength (format ++ more) = .error fault) := by
  refine ⟨?_, ?_, ?_⟩
  · intro direction buffer stopped
    exact congrArg Conversion.ofIntake
      ((Tokenizer.goesOn_items format more).takeIn_eq stopped settled)
  · intro refused
    exact (Tokenizer.goesOn_readings format more).result_eq_error refused
      settled
  · intro refused
    exact (Tokenizer.goesOn_readings format more).result_eq_error refused
      settled

/-- The letter behind two zeros settles them, so the digit behind the letter
does not make them a count. -/
theorem settled_fault_is_final_behind_zeros :
    Fault.SettledBefore "s00x" "9b" (.malformedFormat 1 .zeroCount) ∧
      convert .hostToNetwork ("s00x" ++ "9b") [1, 2, 3] =
        ⟨[2, 1, 3], some (.malformedFormat 1 .zeroCount)⟩ ∧
      Layout.parse ("s00x" ++ "9b") =
        .error (.malformedFormat 1 .zeroCount) ∧
      formatLength ("s00x" ++ "9b") =
        .error (.malformedFormat 1 .zeroCount) := by
  have settled :
      Fault.SettledBefore "s00x" "9b" (.malformedFormat 1 .zeroCount) := by
    refine .inl ⟨"s", "00", "x", by decide, by decide, ?_, ?_, by decide⟩
    · exact List.all_eq_true.mp (by decide)
    · intro character member
      cases member
      rfl
  have refused : Layout.parse "s00x" =
      .error (.malformedFormat 1 .zeroCount) :=
    Layout.parse_of_firstFault? (by decide +kernel) (by decide +kernel)
  obtain ⟨conversions, layouts, lengths⟩ :=
    settled_fault_is_final "s00x" "9b" _ settled
  refine ⟨settled, ?_, layouts refused, ?_⟩
  · exact (conversions .hostToNetwork [1, 2, 3] (by decide +kernel)).trans
      (by decide +kernel)
  · exact lengths (formatLength_of_parse_error refused)

end WireOrder
