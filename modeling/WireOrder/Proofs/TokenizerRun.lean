import WireOrder.Proofs.CursorPlaces
import WireOrder.Proofs.FormatReading

/-!
# Whole runs of a tokenizer

Called again and again, a tokenizer yields the token of one entry after the
other, up to the longest well-formed beginning of its format, and each time
moves over the text of that entry.  There the format ends, or one fault is
yielded.  From then on nothing is yielded and the tokenizer stays where it is,
which after a fault need not be the place the fault reports.
-/

namespace WireOrder

namespace Tokenizer

theorem afterCalls_add (earlier later : Nat) (tokenizer : Tokenizer) :
    afterCalls (earlier + later) tokenizer =
      afterCalls later (afterCalls earlier tokenizer) := by
  induction earlier generalizing tokenizer with
  | zero => rw [Nat.zero_add, afterCalls]
  | succ earlier ih => rw [Nat.succ_add, afterCalls, afterCalls, ih]

/-! ## Coming to rest -/

theorem afterCalls_of_next_none {tokenizer : Tokenizer}
    (silent : tokenizer.next = (none, tokenizer)) (calls : Nat) :
    afterCalls calls tokenizer = tokenizer := by
  induction calls with
  | zero => rfl
  | succ calls ih => rw [afterCalls, silent, ih]

/-- After so many calls the tokenizer of a format yields nothing more and
stays at a place. -/
def RestsAt (format : String) (calls place : Nat) : Prop :=
  ∀ later, calls ≤ later →
    (afterCalls later (ofString format)).next.1 = none ∧
      (afterCalls later (ofString format)).position = place

theorem restsAt_of_next_none {format : String} {calls : Nat}
    {tokenizer : Tokenizer}
    (reached : afterCalls calls (ofString format) = tokenizer)
    (silent : tokenizer.next = (none, tokenizer)) :
    RestsAt format calls tokenizer.position := by
  intro later beyond
  obtain ⟨more, rfl⟩ := Nat.exists_eq_add_of_le beyond
  rw [afterCalls_add, reached, afterCalls_of_next_none silent, silent]
  exact ⟨rfl, rfl⟩

/-! ## Moving over entries -/

theorem afterCalls_of_entries (format : String) {entries : List Entry}
    (valid : ∀ entry ∈ entries, entry.Valid)
    (rest : List Char) (position : Nat) :
    afterCalls entries.length
        ⟨format, ⟨entries.flatMap Entry.text ++ rest, position⟩, false⟩ =
      ⟨format, ⟨rest, position + (entries.flatMap Entry.text).length⟩,
        false⟩ := by
  induction entries generalizing position with
  | nil => rfl
  | cons entry entries ih =>
      obtain ⟨entryValid, laterValid⟩ := List.forall_mem_cons.mp valid
      rw [List.length_cons, afterCalls, List.flatMap_cons,
        List.append_assoc, next_of_entry format entryValid, ih laterValid,
        List.length_append, Nat.add_assoc]

end Tokenizer

theorem length_le_length_flatMap_text (entries : List Entry) :
    entries.length ≤ (entries.flatMap Entry.text).length := by
  induction entries with
  | nil => exact Nat.le_refl _
  | cons entry entries ih =>
      have nonempty := List.length_pos_iff.mpr entry.text_ne_nil
      rw [List.flatMap_cons, List.length_append, List.length_cons]
      omega

namespace Dissection

variable {format : String}

theorem length_entries_le (dissection : Dissection format) :
    dissection.entries.length ≤ format.utf8ByteSize := by
  have counted := length_le_length_flatMap_text dissection.entries
  rw [← utf8ByteSize_formatText dissection.valid] at counted
  rw [dissection.utf8ByteSize_eq, Nat.add_assoc]
  exact Nat.le_trans counted (Nat.le_add_right _ _)

theorem afterCalls_eq (dissection : Dissection format) {calls : Nat}
    (early : calls ≤ dissection.entries.length) :
    Tokenizer.afterCalls calls (Tokenizer.ofString format) =
      ⟨format,
        ⟨(dissection.entries.drop calls).flatMap Entry.text ++
            (dissection.digits.toList ++ dissection.rest.toList),
          (formatText (dissection.entries.take calls)).utf8ByteSize⟩,
        false⟩ := by
  have valid : ∀ entry ∈ dissection.entries.take calls, entry.Valid := by
    intro entry member
    exact dissection.valid entry (List.mem_of_mem_take member)
  have moved := Tokenizer.afterCalls_of_entries format valid
    ((dissection.entries.drop calls).flatMap Entry.text ++
      (dissection.digits.toList ++ dissection.rest.toList)) 0
  rw [List.length_take_of_le early, ← List.append_assoc,
    ← List.flatMap_append, List.take_append_drop, ← dissection.toList_eq,
    Nat.zero_add, ← utf8ByteSize_formatText valid] at moved
  exact moved

theorem next_eq_of_lt (dissection : Dissection format) {calls : Nat}
    (early : calls < dissection.entries.length) :
    (Tokenizer.afterCalls calls (Tokenizer.ofString format)).next.1 =
      some (.ok dissection.entries[calls].token) := by
  have valid := dissection.valid _ (List.getElem_mem early)
  rw [dissection.afterCalls_eq (Nat.le_of_lt early),
    List.drop_eq_getElem_cons early, List.flatMap_cons, List.append_assoc,
    Tokenizer.next_of_entry format valid]

theorem afterCalls_length_entries (dissection : Dissection format) :
    Tokenizer.afterCalls dissection.entries.length
        (Tokenizer.ofString format) =
      ⟨format,
        ⟨dissection.digits.toList ++ dissection.rest.toList,
          (formatText dissection.entries).utf8ByteSize⟩, false⟩ := by
  have moved := dissection.afterCalls_eq (Nat.le_refl _)
  rw [List.drop_length, List.take_length] at moved
  exact moved

theorem rests_of_tail_nil (dissection : Dissection format)
    (exhausted :
      dissection.digits.toList ++ dissection.rest.toList = []) :
    Tokenizer.RestsAt format dissection.entries.length
      format.utf8ByteSize := by
  have resting := Tokenizer.restsAt_of_next_none
    dissection.afterCalls_length_entries
    (Tokenizer.next_of_rest_nil exhausted)
  have whole := congrArg String.utf8ByteSize
    (dissection.eq_formatText_of_tail_nil exhausted)
  rw [whole]
  exact resting

theorem rests_of_tail_ne_nil (dissection : Dissection format)
    (remaining :
      dissection.digits.toList ++ dissection.rest.toList ≠ []) :
    (Tokenizer.afterCalls dissection.entries.length
        (Tokenizer.ofString format)).next.1 =
        some (.error dissection.fault) ∧
      ∃ stop,
        StopsAt dissection.digits.toList dissection.fault stop ∧
          Tokenizer.RestsAt format (dissection.entries.length + 1)
            stop := by
  obtain ⟨place, stuck, stopped⟩ := dissection.scanEntry_eq
  have reached := dissection.afterCalls_length_entries
  have faulted :
      (Tokenizer.afterCalls dissection.entries.length
        (Tokenizer.ofString format)).next =
        (some (.error dissection.fault), ⟨format, place, true⟩) := by
    rw [reached]
    exact Tokenizer.next_of_scanEntry_stuck remaining stuck
  have left : Tokenizer.afterCalls (dissection.entries.length + 1)
      (Tokenizer.ofString format) = ⟨format, place, true⟩ := by
    rw [Tokenizer.afterCalls_add]
    exact congrArg Prod.snd faulted
  constructor
  · rw [faulted]
  · refine ⟨place.position, stopped, ?_⟩
    exact Tokenizer.restsAt_of_next_none left
      (Tokenizer.next_of_failed rfl)

end Dissection

/-- The calls of a tokenizer yield the tokens of the entries that make up the
longest well-formed beginning of its format, of which there are not more than
bytes in the format.  With each token the position moves over its digits and
its code; it never decreases.  If these entries are the whole format, the
tokenizer rests at its end.  Otherwise the next call yields the fault of what
comes after them, and the tokenizer rests where that fault stops it. -/
theorem tokenizer_yields_tokens_and_rests (format : String) :
    Nonempty (Dissection format) ∧
      ∀ dissection : Dissection format,
        dissection.entries.length ≤ format.utf8ByteSize ∧
          (∀ calls (early : calls < dissection.entries.length),
            (Tokenizer.afterCalls calls
                (Tokenizer.ofString format)).next.1 =
              some (.ok dissection.entries[calls].token)) ∧
          (∀ calls, calls ≤ dissection.entries.length →
            (Tokenizer.afterCalls calls
                (Tokenizer.ofString format)).position =
              (formatText (dissection.entries.take calls)).utf8ByteSize) ∧
          (∀ earlier later, earlier ≤ later →
            (Tokenizer.afterCalls earlier
                (Tokenizer.ofString format)).position ≤
              (Tokenizer.afterCalls later
                (Tokenizer.ofString format)).position) ∧
          (format = formatText dissection.entries ∧
              Tokenizer.RestsAt format dissection.entries.length
                format.utf8ByteSize ∨
            (Tokenizer.afterCalls dissection.entries.length
                (Tokenizer.ofString format)).next.1 =
                some (.error dissection.fault) ∧
              ∃ stop,
                Dissection.StopsAt dissection.digits.toList
                    dissection.fault stop ∧
                  Tokenizer.RestsAt format
                    (dissection.entries.length + 1) stop) := by
  refine ⟨Dissection.nonempty format, ?_⟩
  intro dissection
  refine ⟨dissection.length_entries_le, ?_, ?_, ?_, ?_⟩
  · intro calls early
    exact dissection.next_eq_of_lt early
  · intro calls early
    exact congrArg Tokenizer.position (dissection.afterCalls_eq early)
  · intro earlier later ordered
    obtain ⟨more, rfl⟩ := Nat.exists_eq_add_of_le ordered
    rw [Tokenizer.afterCalls_add]
    exact (Tokenizer.onward_afterCalls more _).position_le
  · by_cases exhausted :
        dissection.digits.toList ++ dissection.rest.toList = []
    · left
      exact ⟨dissection.eq_formatText_of_tail_nil exhausted,
        dissection.rests_of_tail_nil exhausted⟩
    · right
      exact dissection.rests_of_tail_ne_nil exhausted

/-- The tokenizer rests at the digit that takes a count out of range. -/
theorem tokenizer_rests_inside_overflowing_count :
    (Tokenizer.afterCalls 0 (Tokenizer.ofString "2s4294967296h")).next.1 =
        some (.ok ⟨2, .short⟩) ∧
      (Tokenizer.afterCalls 1
        (Tokenizer.ofString "2s4294967296h")).position = 2 ∧
      (Tokenizer.afterCalls 1 (Tokenizer.ofString "2s4294967296h")).next.1 =
        some (.error (.malformedFormat 2 .countOverflow)) ∧
      Tokenizer.RestsAt "2s4294967296h" 2 11 := by
  let dissection : Dissection "2s4294967296h" :=
    .ofCut [⟨['2'], .short⟩] "4294967296h".toList (by decide)
      (by decide +kernel) (by decide +kernel)
  have diagnosed : dissection.fault =
      .malformedFormat 2 .countOverflow := by decide +kernel
  obtain ⟨_, yields, places, _, ended⟩ :=
    (tokenizer_yields_tokens_and_rests "2s4294967296h").2 dissection
  have first := yields 0 (Nat.zero_lt_one)
  have moved := places 1 (Nat.le_refl 1)
  rcases ended with ⟨whole, _⟩ | ⟨faulted, stop, _, resting⟩
  · exact absurd whole (by decide +kernel)
  · rw [diagnosed] at faulted
    have place : 11 = stop := (resting 2 (Nat.le_refl 2)).2
    rw [← place] at resting
    exact ⟨first, moved, faulted, resting⟩

end WireOrder
