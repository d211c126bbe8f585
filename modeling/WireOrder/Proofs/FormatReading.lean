import WireOrder.Proofs.EntryScanning
import WireOrder.Proofs.FormatDissection
import WireOrder.Proofs.LeadingItems

/-!
# What a tokenizer yields

At a valid entry a tokenizer yields its token and moves behind it, so over a
text that is cut into entries it yields their tokens.  At a place where no
entry begins it yields the fault of that place and nothing more.  Which fault
that is depends on the digits there and on what comes after them.
-/

namespace WireOrder

namespace Tokenizer

theorem items_of_next_none {before after : Tokenizer}
    (silent : before.next = (none, after)) : before.items = [] := by
  rw [items, steps_of_next_none silent, List.map_nil]

theorem items_of_next_some {before after : Tokenizer} {item : Item}
    (yielded : before.next = (some item, after)) :
    before.items = item :: after.items := by
  rw [items, steps_of_next_some yielded, List.map_cons, items]

theorem items_of_rest_nil (format : String) (position : Nat) :
    (Tokenizer.mk format ⟨[], position⟩ false).items = [] :=
  items_of_next_none (next_of_rest_nil rfl)

theorem next_of_scanEntry_read {format : String} {cursor after : Cursor}
    {token : Token} (remaining : cursor.rest ≠ [])
    (scanned : cursor.scanEntry = .read token after) :
    (Tokenizer.mk format cursor false).next =
      (some (.ok token), ⟨format, after, false⟩) := by
  simp [next, remaining, scanned]

theorem next_of_scanEntry_stuck {format : String} {cursor place : Cursor}
    {fault : Fault} (remaining : cursor.rest ≠ [])
    (scanned : cursor.scanEntry = .stuck fault place) :
    (Tokenizer.mk format cursor false).next =
      (some (.error fault), ⟨format, place, true⟩) := by
  simp [next, remaining, scanned]

theorem next_of_entry (format : String) {entry : Entry}
    (valid : entry.Valid) (rest : List Char) (position : Nat) :
    (Tokenizer.mk format ⟨entry.text ++ rest, position⟩ false).next =
      (some (.ok entry.token),
        ⟨format, ⟨rest, position + entry.text.length⟩, false⟩) := by
  apply next_of_scanEntry_read
  · intro exhausted
    exact entry.text_ne_nil (List.append_eq_nil_iff.mp exhausted).1
  · exact Cursor.scanEntry_text valid

theorem items_of_entries (format : String) {entries : List Entry}
    (valid : ∀ entry ∈ entries, entry.Valid)
    (rest : List Char) (position : Nat) :
    (Tokenizer.mk format
        ⟨entries.flatMap Entry.text ++ rest, position⟩ false).items =
      (entries.map Entry.token).map .ok ++
        (Tokenizer.mk format
          ⟨rest, position + (entries.flatMap Entry.text).length⟩
          false).items := by
  induction entries generalizing position with
  | nil => rfl
  | cons entry entries ih =>
      obtain ⟨entryValid, laterValid⟩ := List.forall_mem_cons.mp valid
      rw [List.flatMap_cons, List.append_assoc,
        items_of_next_some (next_of_entry format entryValid _ position),
        ih laterValid, List.map_cons, List.map_cons, List.cons_append,
        List.length_append, Nat.add_assoc]

theorem items_of_scanEntry_stuck {format : String} {cursor place : Cursor}
    {fault : Fault} (remaining : cursor.rest ≠ [])
    (scanned : cursor.scanEntry = .stuck fault place) :
    (Tokenizer.mk format cursor false).items = [.error fault] := by
  rw [items_of_next_some (next_of_scanEntry_stuck remaining scanned),
    items_of_next_none (next_of_failed rfl)]

end Tokenizer

theorem ConsistsOf.items_eq {format : String} {entries : List Entry}
    (cut : ConsistsOf format entries) :
    (Tokenizer.ofString format).items =
      (entries.map Entry.token).map .ok := by
  have begun := Tokenizer.items_of_entries format cut.valid [] 0
  rw [List.append_nil, ← toList_formatText, ← cut.text_eq,
    Tokenizer.items_of_rest_nil, List.append_nil] at begun
  exact begun

theorem ConsistsOf.leading_items {format : String} {entries : List Entry}
    (cut : ConsistsOf format entries) :
    leading (Tokenizer.ofString format).items =
      entries.map Entry.token := by
  rw [cut.items_eq, leading_map_ok]

namespace Dissection

variable {format : String}

theorem scanEntry_of_inRange (dissection : Dissection format)
    (inRange : 0 < countOf dissection.digits.toList ∧
      countOf dissection.digits.toList < countLimit) :
    ∃ place, Cursor.scanEntry
        ⟨dissection.digits.toList ++ dissection.rest.toList,
          (formatText dissection.entries).utf8ByteSize⟩ =
        .stuck dissection.codeFault place ∧
      StopsAt dissection.digits.toList dissection.codeFault
        place.position := by
  have numeric := dissection.numeric
  have ended := dissection.ended
  have stuck := dissection.not_entryAhead
  have digitBytes := utf8ByteSize_of_numeric numeric
  rw [entryAhead_append_iff numeric ended] at stuck
  rw [codeFault]
  cases remaining : dissection.rest.toList with
  | nil =>
      have exhausted : dissection.rest = "" :=
        String.toList_eq_nil_iff.mp remaining
      have scanned := Cursor.scanEntry_of_end
        (formatText dissection.entries).utf8ByteSize numeric inRange.1
        inRange.2
      rw [← digitBytes] at scanned
      rw [List.append_nil, dissection.utf8ByteSize_eq, exhausted]
      exact ⟨_, scanned, .missingTypeCode _⟩
  | cons character rest =>
      rw [remaining] at ended stuck
      have notCode : Field.ofCode? character = none := by
        cases decoded : Field.ofCode? character with
        | none => rfl
        | some field => exact absurd ⟨inRange, by simp [decoded]⟩ stuck
      have scanned := Cursor.scanEntry_of_not_code
        (formatText dissection.entries).utf8ByteSize numeric ended inRange.1
        inRange.2 notCode
      rw [← digitBytes] at scanned
      exact ⟨_, scanned, .unknownTypeCode _ character⟩

/-- Scanning gets stuck behind the longest well-formed beginning. -/
theorem scanEntry_eq (dissection : Dissection format) :
    ∃ place, Cursor.scanEntry
        ⟨dissection.digits.toList ++ dissection.rest.toList,
          (formatText dissection.entries).utf8ByteSize⟩ =
        .stuck dissection.fault place ∧
      StopsAt dissection.digits.toList dissection.fault place.position := by
  by_cases large :
      countLimit ≤ Nat.ofDigitChars 10 dissection.digits.toList 0
  · obtain ⟨taken, digit, left, split, small, exceeded, stopped⟩ :=
      Cursor.scanCount_of_overflow _ dissection.numeric large
    have continued : taken ++ [digit] <+: dissection.digits.toList := by
      rw [split]
      exact ⟨left, List.append_assoc taken [digit] left⟩
    simp only [fault, if_pos large]
    refine ⟨_, Cursor.scanEntry_of_scanCount_stuck stopped,
      .countOverflow _ ?_ small ?_⟩
    · exact (List.prefix_append taken [digit]).trans continued
    · intro beginning begins beginningSmall
      exact length_le_of_ofDigitChars_lt begins beginningSmall continued
        exceeded
  · by_cases zero : dissection.digits ≠ "" ∧
        Nat.ofDigitChars 10 dissection.digits.toList 0 = 0
    · have written : dissection.digits.toList ≠ [] :=
        mt String.toList_eq_nil_iff.mp zero.1
      have stopped := Cursor.scanCount_of_zero
        (formatText dissection.entries).utf8ByteSize dissection.numeric
        dissection.ended written zero.2
      simp only [fault, if_neg large, if_pos zero]
      exact ⟨_, Cursor.scanEntry_of_scanCount_stuck stopped, .zeroCount _⟩
    · simp only [fault, if_neg large, if_neg zero]
      exact dissection.scanEntry_of_inRange
        (dissection.countOf_inRange large zero)

theorem items_eq (dissection : Dissection format)
    (malformed : ¬ WellFormed format) :
    (Tokenizer.ofString format).items =
      (dissection.entries.map Entry.token).map .ok ++
        [.error dissection.fault] := by
  have tail := dissection.tail_ne_nil malformed
  obtain ⟨place, stopped, _⟩ := dissection.scanEntry_eq
  rw [utf8ByteSize_formatText dissection.valid] at stopped
  rw [Tokenizer.ofString, Cursor.start, dissection.toList_eq,
    Tokenizer.items_of_entries format dissection.valid, Nat.zero_add,
    Tokenizer.items_of_scanEntry_stuck tail stopped]

end Dissection

/-- A format is well formed exactly if its tokenizer yields no fault. -/
theorem wellFormed_iff_faultless {format : String} :
    WellFormed format ↔
      firstFault? (Tokenizer.ofString format).items = none := by
  constructor
  · intro wellFormed
    obtain ⟨entries, cut⟩ := wellFormed_iff_consistsOf.mp wellFormed
    rw [cut.items_eq, firstFault?_map_ok]
  · intro faultless
    apply Classical.byContradiction
    intro malformed
    obtain ⟨dissection⟩ := Dissection.nonempty format
    rw [dissection.items_eq malformed, firstFault?_map_ok_append] at faultless
    cases faultless

theorem blamesFormat_of_firstFault? {format : String} {fault : Fault}
    (faulted : firstFault? (Tokenizer.ofString format).items = some fault) :
    fault.blamesFormat = true := by
  by_cases wellFormed : WellFormed format
  · rw [wellFormed_iff_faultless.mp wellFormed] at faulted
    cases faulted
  · obtain ⟨dissection⟩ := Dissection.nonempty format
    rw [dissection.items_eq wellFormed, firstFault?_map_ok_append] at faulted
    cases faulted
    exact dissection.blamesFormat_fault

/-- A malformed format yields the tokens of its longest well-formed beginning
and then one fault.  The fault is an overflow at the beginning of the next
digits if their value is out of range, whatever comes after them; otherwise a
zero count there if they are written and have the value zero; otherwise a
missing type code at the end of the format if it ends with them; and otherwise
an unknown type code at the character that comes after them.  All positions
are counted in UTF-8 bytes. -/
theorem items_of_malformed (format : String)
    (malformed : ¬ WellFormed format) :
    Nonempty (Dissection format) ∧
      ∀ dissection : Dissection format,
        (Tokenizer.ofString format).items =
          (dissection.entries.map Entry.token).map .ok ++
            [.error dissection.fault] := by
  constructor
  · exact Dissection.nonempty format
  · intro dissection
    exact dissection.items_eq malformed

/-- The character after a good count is no type code and takes two bytes. -/
theorem items_of_malformed_at_accented_letter :
    ¬ WellFormed "2s12é" ∧
      (Tokenizer.ofString "2s12é").items =
        [.ok ⟨2, .short⟩,
          .error (.malformedFormat 4 (.unknownTypeCode 'é'))] := by
  have malformed : ¬ WellFormed "2s12é" := by
    rw [wellFormed_iff_faultless]
    decide +kernel
  let dissection : Dissection "2s12é" :=
    .ofCut [⟨['2'], .short⟩] ['1', '2', 'é'] (by decide) (by decide +kernel)
      (by decide +kernel)
  have diagnosed : dissection.fault =
      .malformedFormat 4 (.unknownTypeCode 'é') := by decide +kernel
  have yielded := (items_of_malformed "2s12é" malformed).2 dissection
  rw [diagnosed] at yielded
  exact ⟨malformed, yielded⟩

end WireOrder
