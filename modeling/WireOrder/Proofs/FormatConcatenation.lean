import WireOrder.Proofs.FormatReading

/-!
# Formats inside longer formats

What is read at a place of a format depends on the characters still to come and
on nothing before them.  Text in front of a format therefore moves every
position by its length in bytes and changes nothing else.  In particular the
items of two formats one after the other are the items of the first and then
those of the second, moved in this way, if the first is well formed.
-/

namespace WireOrder

/-- The fault as it is reported when the format begins the given number of
bytes further on. -/
def Fault.laterInFormat (bytes : Nat) : Fault → Fault
  | .malformedFormat position malformation =>
      .malformedFormat (position + bytes) malformation
  | .bufferTooShort offset needed available =>
      .bufferTooShort offset needed available

def Cursor.later (bytes : Nat) (cursor : Cursor) : Cursor :=
  ⟨cursor.rest, cursor.position + bytes⟩

def Outcome.later (bytes : Nat) : Outcome α → Outcome α
  | .read value after => .read value (after.later bytes)
  | .stuck fault place => .stuck (fault.laterInFormat bytes) (place.later bytes)

namespace Cursor

theorem numeral_later (bytes origin value : Nat) (rest : List Char)
    (position : Nat) :
    numeral (origin + bytes) value rest (position + bytes) =
      (numeral origin value rest position).later bytes := by
  induction rest generalizing value position with
  | nil => rfl
  | cons character rest ih =>
      unfold numeral
      by_cases digit : character.isDigit = true
      · rw [if_pos digit, if_pos digit]
        dsimp only
        by_cases small :
            10 * value + (character.toNat - '0'.toNat) < countLimit
        · rw [if_pos small, if_pos small, Nat.add_right_comm, ih]
        · rw [if_neg small, if_neg small]
          rfl
      · rw [if_neg digit, if_neg digit]
        rfl

theorem scanCount_later (bytes : Nat) (cursor : Cursor) :
    (cursor.later bytes).scanCount = cursor.scanCount.later bytes := by
  have moved := numeral_later bytes cursor.position 0 cursor.rest
    cursor.position
  simp only [scanCount, later, moved]
  cases numeral cursor.position 0 cursor.rest cursor.position with
  | stuck fault place => rfl
  | read count after =>
      simp only [Outcome.later, later, Nat.add_right_cancel_iff]
      by_cases unmoved : after.position = cursor.position
      · rw [if_pos unmoved, if_pos unmoved]
      · rw [if_neg unmoved, if_neg unmoved]
        by_cases zero : count = 0
        · rw [if_pos zero, if_pos zero]
          rfl
        · rw [if_neg zero, if_neg zero]

theorem scanCode_later (bytes : Nat) (cursor : Cursor) :
    (cursor.later bytes).scanCode = cursor.scanCode.later bytes := by
  obtain ⟨rest, position⟩ := cursor
  cases rest with
  | nil => rfl
  | cons character rest =>
      simp only [scanCode, later]
      cases Field.ofCode? character with
      | none => rfl
      | some field =>
          simp only [Outcome.later, later, Nat.add_right_comm]

theorem scanEntry_later (bytes : Nat) (cursor : Cursor) :
    (cursor.later bytes).scanEntry = cursor.scanEntry.later bytes := by
  simp only [scanEntry, scanCount_later]
  cases cursor.scanCount with
  | stuck fault place => rfl
  | read count middle =>
      simp only [Outcome.later, scanCode_later]
      cases middle.scanCode with
      | stuck fault place => rfl
      | read field after => rfl

end Cursor

namespace Tokenizer

/-- The tokenizer at the same place of its format, where the format begins the
given number of bytes into a longer text. -/
def within (text : String) (bytes : Nat) (tokenizer : Tokenizer) :
    Tokenizer :=
  ⟨text, tokenizer.cursor.later bytes, tokenizer.failed⟩

variable (text : String) (bytes : Nat)

theorem next_within (tokenizer : Tokenizer) :
    (tokenizer.within text bytes).next =
      (tokenizer.next.1.map (Except.mapError (Fault.laterInFormat bytes)),
        tokenizer.next.2.within text bytes) := by
  obtain ⟨format, cursor, failed⟩ := tokenizer
  have sameRest : (cursor.later bytes).rest = cursor.rest := rfl
  simp only [next, within, sameRest, Cursor.scanEntry_later]
  by_cases silent : (failed || cursor.rest.isEmpty) = true
  · rw [if_pos silent, if_pos silent]
    rfl
  · rw [if_neg silent, if_neg silent]
    cases cursor.scanEntry with
    | read token after => rfl
    | stuck fault place => rfl

theorem items_within (tokenizer : Tokenizer) :
    (tokenizer.within text bytes).items =
      tokenizer.items.map (Except.mapError (Fault.laterInFormat bytes)) := by
  have moved := next_within text bytes tokenizer
  rcases step : tokenizer.next with ⟨yielded, after⟩
  rw [step] at moved
  cases yielded with
  | none => rw [items_of_next_none moved, items_of_next_none step, List.map_nil]
  | some item =>
      have shorter := remaining_lt_of_next step
      rw [items_of_next_some moved, items_of_next_some step, List.map_cons,
        items_within after]
termination_by tokenizer.remaining

end Tokenizer

namespace ConsistsOf

variable {first : String} {entries : List Entry}

theorem utf8ByteSize_eq (cut : ConsistsOf first entries) :
    first.utf8ByteSize = (entries.flatMap Entry.text).length := by
  rw [cut.text_eq, utf8ByteSize_formatText cut.valid]

theorem ofString_append (cut : ConsistsOf first entries) (second : String) :
    Tokenizer.ofString (first ++ second) =
      ⟨first ++ second,
        ⟨entries.flatMap Entry.text ++ second.toList, 0⟩, false⟩ := by
  have text : (first ++ second).toList =
      entries.flatMap Entry.text ++ second.toList := by
    rw [String.toList_append, cut.text_eq, toList_formatText]
  rw [Tokenizer.ofString, Cursor.start, text]

end ConsistsOf

/-- Behind a well-formed format another one is read as if it stood alone,
apart from the positions. -/
theorem Tokenizer.items_append {first : String} {entries : List Entry}
    (cut : ConsistsOf first entries) (second : String) :
    (ofString (first ++ second)).items =
      (ofString first).items ++
        (ofString second).items.map
          (Except.mapError (Fault.laterInFormat first.utf8ByteSize)) := by
  have begun := items_of_entries (first ++ second) cut.valid second.toList 0
  rw [← cut.ofString_append, ← cut.items_eq, ← cut.utf8ByteSize_eq] at begun
  rw [← items_within (first ++ second)]
  exact begun

end WireOrder
