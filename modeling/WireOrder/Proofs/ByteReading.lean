import WireOrder.Proofs.CursorPlaces

/-!
# Reading a format by its bytes

A format can be read without decoding it first: digits are looked for among its
bytes, and only where a type code is expected is the text cut at the place that
has been reached, to see which character begins there.  Two things could go
wrong.  The place could be inside a character, where a text cannot be cut, and
a byte taken for a digit could be less than that of the digit zero.

`ByteReader` reads that way and gives up where something goes wrong.  The main
statement says that it never does, and that it is the tokenizer: no byte of a
character that takes several is a digit, and every place that is reached, also
by getting stuck, is the beginning of a character.
-/

namespace WireOrder

/-- A format on the way of being read by its bytes. -/
structure ByteReader where
  format : String
  position : Nat
  failed : Bool

namespace ByteReader

def ofString (format : String) : ByteReader :=
  ⟨format, 0, false⟩

def isDigit (byte : UInt8) : Bool :=
  decide (0x30 ≤ byte ∧ byte ≤ 0x39)

/-- The difference of two bytes, unless it is negative. -/
def difference? (byte subtracted : UInt8) : Option Nat :=
  if subtracted ≤ byte then some (byte.toNat - subtracted.toNat) else none

/-- The text from a byte position on, unless that is beyond the end or inside a
character. -/
def suffix? (format : String) (position : Nat) : Option String :=
  (format.pos? ⟨position⟩).map fun place => (format.sliceFrom place).copy

def numeral (format : String) (origin value position : Nat) :
    Option (Except Fault Nat × Nat) :=
  match found : format.toByteArray[position]? with
  | none => some (.ok value, position)
  | some byte =>
      if isDigit byte then do
        let digit ← difference? byte 0x30
        let longer := 10 * value + digit
        if longer < countLimit then
          numeral format origin longer (position + 1)
        else
          some (.error (.malformedFormat origin .countOverflow), position)
      else
        some (.ok value, position)
termination_by format.toByteArray.size - position
decreasing_by
  have inside := of_getElem?_eq_some found
  omega

def scanCount (format : String) (position : Nat) :
    Option (Except Fault (Option Nat) × Nat) := do
  match ← numeral format position 0 position with
  | (.error fault, place) => some (.error fault, place)
  | (.ok count, after) =>
      if after = position then
        some (.ok none, after)
      else if count = 0 then
        some (.error (.malformedFormat position .zeroCount), after)
      else
        some (.ok (some count), after)

/-- Read a type code where the text can be cut. -/
def scanCode (format : String) (position : Nat) :
    Option (Except Fault Field × Nat) := do
  match (← suffix? format position).toList with
  | [] => some (.error (.malformedFormat position .missingTypeCode), position)
  | character :: _ =>
      match Field.ofCode? character with
      | none =>
          some (.error
            (.malformedFormat position (.unknownTypeCode character)), position)
      | some field => some (.ok field, position + character.utf8Size)

def scanEntry (format : String) (position : Nat) :
    Option (Except Fault Token × Nat) := do
  match ← scanCount format position with
  | (.error fault, place) => some (.error fault, place)
  | (.ok count, middle) =>
      match ← scanCode format middle with
      | (.error fault, place) => some (.error fault, place)
      | (.ok field, after) => some (.ok ⟨count.getD 1, field⟩, after)

def isDone (reader : ByteReader) : Bool :=
  reader.failed || decide (reader.format.utf8ByteSize ≤ reader.position)

def next (reader : ByteReader) : Option (Option Item × ByteReader) :=
  if reader.isDone then
    some (none, reader)
  else do
    match ← scanEntry reader.format reader.position with
    | (.ok token, after) =>
        some (some (.ok token), { reader with position := after })
    | (.error fault, place) =>
        some (some (.error fault),
          { reader with position := place, failed := true })

def afterCalls : Nat → ByteReader → Option ByteReader
  | 0, reader => some reader
  | calls + 1, reader => do
      let (_, after) ← reader.next
      afterCalls calls after

/-- A text can be cut exactly at the beginnings of its characters and at its
end. -/
theorem suffix?_eq_none_iff (format : String) (position : Nat) :
    suffix? format position = none ↔
      ¬ (String.Pos.Raw.mk position).IsValid format := by
  rw [suffix?, Option.map_eq_none_iff, String.pos?,
    Option.map_eq_none_iff, String.Slice.pos?]
  by_cases valid :
      String.Pos.Raw.isValidForSlice format.toSlice ⟨position⟩ = true
  · rw [dif_pos valid]
    have validThere := String.Pos.Raw.isValidForSlice_eq_true_iff.mp valid
    rw [String.Pos.Raw.isValidForSlice_toSlice_iff] at validThere
    simp [validThere]
  · rw [dif_neg valid]
    rw [String.Pos.Raw.isValidForSlice_eq_true_iff,
      String.Pos.Raw.isValidForSlice_toSlice_iff] at valid
    simp [valid]

example : suffix? "é" 1 = none := by decide +kernel

end ByteReader

/-! ## Digits among the bytes of a text -/

theorem le_head_utf8EncodeChar {character : Char} {byte : UInt8}
    (wide : character.utf8Size ≠ 1)
    (first : (String.utf8EncodeChar character).head? = some byte) :
    0xc0 ≤ byte := by
  have marked (marker payload : UInt8) : marker ≤ payload ||| marker := by
    rw [UInt8.le_iff_toNat_le, UInt8.toNat_or]
    exact Nat.right_le_or
  rcases character.utf8Size_eq with one | two | three | four
  · exact absurd one wide
  · rw [String.utf8EncodeChar_eq_cons_cons two] at first
    cases first
    exact marked _ _
  · rw [String.utf8EncodeChar_eq_cons_cons_cons three] at first
    cases first
    exact UInt8.le_trans (by decide) (marked _ _)
  · rw [String.utf8EncodeChar_eq_cons_cons_cons_cons four] at first
    cases first
    exact UInt8.le_trans (by decide) (marked _ _)

theorem toNat_head_utf8EncodeChar {character : Char} {byte : UInt8}
    (narrow : character.utf8Size = 1)
    (first : (String.utf8EncodeChar character).head? = some byte) :
    byte.toNat = character.toNat := by
  rw [String.utf8EncodeChar_eq_singleton narrow] at first
  cases first
  rw [Char.utf8Size_eq_one_iff, UInt32.le_iff_toNat_le] at narrow
  have small : character.val.toNat ≤ 127 := narrow
  rw [UInt32.toNat_toUInt8]
  exact Nat.mod_eq_of_lt (by omega)

/-- The first byte of a character is that of a digit exactly if the character
is a digit. -/
theorem isDigit_head_utf8EncodeChar {character : Char} {byte : UInt8}
    (first : (String.utf8EncodeChar character).head? = some byte) :
    ByteReader.isDigit byte = character.isDigit := by
  by_cases narrow : character.utf8Size = 1
  · have same : byte.toNat = character.val.toNat :=
      toNat_head_utf8EncodeChar narrow first
    simp only [ByteReader.isDigit, Char.isDigit, UInt8.le_iff_toNat_le,
      UInt32.le_iff_toNat_le, ge_iff_le, same, Bool.decide_and]
    rfl
  · have large := le_head_utf8EncodeChar narrow first
    have notDigit : character.isDigit = false := by
      apply Bool.eq_false_iff.mpr
      intro digit
      exact narrow (utf8Size_of_isDigit digit)
    rw [notDigit]
    apply decide_eq_false
    intro within
    exact absurd (UInt8.le_trans large within.2) (by decide)

namespace Cursor.StandsIn

variable {format : String} {rest : List Char} {position : Nat}

theorem getElem?_toByteArray
    (stands : Cursor.StandsIn format ⟨rest, position⟩) :
    format.toByteArray[position]? =
      (rest.flatMap String.utf8EncodeChar).head? := by
  obtain ⟨front, rfl, counted⟩ := stands
  have size : position = front.toByteArray.size := counted
  have bytes : (front ++ String.ofList rest).toByteArray =
      front.toByteArray ++
        (rest.flatMap String.utf8EncodeChar).toByteArray := by
    rw [String.toByteArray_append, String.toByteArray_ofList]
    rfl
  rw [bytes]
  cases encoded : rest.flatMap String.utf8EncodeChar with
  | nil =>
      rw [getElem?_neg]
      · rfl
      · simp [size]
  | cons byte later =>
      have inside : position <
          (front.toByteArray ++ (byte :: later).toByteArray).size := by
        simp [size]
      rw [getElem?_pos _ position inside,
        ByteArray.getElem_append_right (by omega), List.getElem_toByteArray]
      simp [size]

theorem getElem?_of_nil (stands : Cursor.StandsIn format ⟨[], position⟩) :
    format.toByteArray[position]? = none :=
  stands.getElem?_toByteArray

theorem getElem?_of_cons {character : Char}
    (stands : Cursor.StandsIn format ⟨character :: rest, position⟩) :
    ∃ byte, format.toByteArray[position]? = some byte ∧
      (String.utf8EncodeChar character).head? = some byte := by
  obtain ⟨byte, later, encoded⟩ :=
    List.exists_cons_of_ne_nil (String.utf8EncodeChar_ne_nil (c := character))
  refine ⟨byte, ?_, by rw [encoded]; rfl⟩
  rw [stands.getElem?_toByteArray, List.flatMap_cons, encoded]
  rfl

theorem suffix?_eq (stands : Cursor.StandsIn format ⟨rest, position⟩) :
    ByteReader.suffix? format position = some (String.ofList rest) := by
  have valid : (String.Pos.Raw.mk position).IsValid format := stands.isValid
  obtain ⟨front, split, counted⟩ := stands
  have cut : format.pos? ⟨position⟩ =
      some (format.pos ⟨position⟩ valid) := by
    simp only [String.pos?, String.Slice.pos?]
    rw [dif_pos (String.Pos.Raw.isValidForSlice_eq_true_iff.mpr
      valid.toSlice)]
    rfl
  have splits : (format.pos ⟨position⟩ valid).Splits front
      (String.ofList rest) := ⟨split, String.Pos.Raw.ext counted⟩
  rw [ByteReader.suffix?, cut, Option.map_some, splits.copy_sliceFrom_eq]

end Cursor.StandsIn

/-- What an outcome amounts to when the format is read by its bytes. -/
def Outcome.byBytes : Outcome α → Except Fault α × Nat
  | .read value after => (.ok value, after.position)
  | .stuck fault place => (.error fault, place.position)

namespace ByteReader

variable {format : String}

theorem difference?_zero_of_isDigit {character : Char} {byte : UInt8}
    (digit : character.isDigit = true)
    (sameNumber : byte.toNat = character.toNat) :
    difference? byte 0x30 = some (character.toNat - '0'.toNat) := by
  simp only [Char.isDigit, Bool.and_eq_true, decide_eq_true_eq,
    UInt32.le_iff_toNat_le, ge_iff_le] at digit
  have large : (0x30 : UInt8) ≤ byte := by
    rw [UInt8.le_iff_toNat_le, sameNumber]
    exact digit.1
  rw [difference?, if_pos large, sameNumber]
  rfl

theorem numeral_eq (origin value : Nat) {rest : List Char} {position : Nat}
    (stands : Cursor.StandsIn format ⟨rest, position⟩) :
    numeral format origin value position =
      some (Cursor.numeral origin value rest position).byBytes := by
  induction rest generalizing value position with
  | nil =>
      rw [numeral]
      split
      · rfl
      · rename_i found
        rw [stands.getElem?_of_nil] at found
        cases found
  | cons character rest ih =>
      obtain ⟨byte, here, first⟩ := stands.getElem?_of_cons
      have sameTest := isDigit_head_utf8EncodeChar first
      rw [numeral]
      split
      · rename_i absent
        rw [here] at absent
        cases absent
      · rename_i found
        cases here.symm.trans found
        rw [sameTest]
        unfold Cursor.numeral
        by_cases digit : character.isDigit = true
        · -- A digit takes one byte, so both readers move by one.
          have narrow := utf8Size_of_isDigit digit
          have stepped := stands.step
          rw [narrow] at stepped
          rw [if_pos digit, if_pos digit, difference?_zero_of_isDigit digit
            (toNat_head_utf8EncodeChar narrow first)]
          dsimp only [Option.bind_eq_bind, Option.bind_some]
          by_cases small :
              10 * value + (character.toNat - '0'.toNat) < countLimit
          · rw [if_pos small, if_pos small]
            exact ih _ stepped
          · rw [if_neg small, if_neg small]
            rfl
        · rw [if_neg digit, if_neg digit]
          rfl

theorem scanCount_eq {cursor : Cursor} (stands : cursor.StandsIn format) :
    scanCount format cursor.position = some cursor.scanCount.byBytes := by
  rw [scanCount, numeral_eq cursor.position 0 stands]
  dsimp only [Option.bind_eq_bind, Option.bind_some]
  unfold Cursor.scanCount
  cases Cursor.numeral cursor.position 0 cursor.rest cursor.position with
  | stuck fault place => rfl
  | read count after =>
      dsimp only [Outcome.byBytes]
      by_cases unmoved : after.position = cursor.position
      · rw [if_pos unmoved, if_pos unmoved]
      · rw [if_neg unmoved, if_neg unmoved]
        by_cases zero : count = 0
        · rw [if_pos zero, if_pos zero]
        · rw [if_neg zero, if_neg zero]

theorem scanCode_eq {cursor : Cursor} (stands : cursor.StandsIn format) :
    scanCode format cursor.position = some cursor.scanCode.byBytes := by
  rw [scanCode, stands.suffix?_eq]
  dsimp only [Option.bind_eq_bind, Option.bind_some]
  rw [String.toList_ofList, Cursor.scanCode]
  cases cursor.rest with
  | nil => rfl
  | cons character rest =>
      dsimp only
      cases Field.ofCode? character with
      | none => rfl
      | some field => rfl

theorem scanEntry_eq {cursor : Cursor} (stands : cursor.StandsIn format) :
    scanEntry format cursor.position = some cursor.scanEntry.byBytes := by
  have onward := cursor.onward_scanCount
  rw [scanEntry, scanCount_eq stands, Cursor.scanEntry]
  cases reading : cursor.scanCount with
  | stuck fault place => rfl
  | read count middle =>
      rw [reading] at onward
      have counted : middle.StandsIn format := onward.standsIn stands
      dsimp only [Option.bind_eq_bind, Option.bind_some, Outcome.byBytes]
      rw [scanCode_eq counted]
      cases middle.scanCode with
      | stuck fault place => rfl
      | read field after => rfl

end ByteReader

def Tokenizer.byBytes (tokenizer : Tokenizer) : ByteReader :=
  ⟨tokenizer.format, tokenizer.position, tokenizer.failed⟩

namespace Tokenizer.WellPlaced

variable {tokenizer : Tokenizer}

theorem isDone_byBytes (placed : tokenizer.WellPlaced) :
    tokenizer.byBytes.isDone =
      (tokenizer.failed || tokenizer.cursor.rest.isEmpty) := by
  apply congrArg (tokenizer.failed || ·)
  rw [Bool.eq_iff_iff, List.isEmpty_iff, decide_eq_true_iff]
  exact (Cursor.StandsIn.rest_eq_nil_iff placed).symm

theorem next_byBytes (placed : tokenizer.WellPlaced) :
    tokenizer.byBytes.next =
      some (tokenizer.next.1, tokenizer.next.2.byBytes) := by
  have scanned : ByteReader.scanEntry tokenizer.byBytes.format
      tokenizer.byBytes.position =
      some tokenizer.cursor.scanEntry.byBytes :=
    ByteReader.scanEntry_eq placed
  rw [ByteReader.next, Tokenizer.next, placed.isDone_byBytes, scanned]
  by_cases silent :
      (tokenizer.failed || tokenizer.cursor.rest.isEmpty) = true
  · rw [if_pos silent, if_pos silent]
  · rw [if_neg silent, if_neg silent]
    cases tokenizer.cursor.scanEntry with
    | read token after => rfl
    | stuck fault place => rfl

theorem afterCalls_byBytes (placed : tokenizer.WellPlaced) (calls : Nat) :
    ByteReader.afterCalls calls tokenizer.byBytes =
      some (Tokenizer.afterCalls calls tokenizer).byBytes := by
  induction calls generalizing tokenizer with
  | zero => rfl
  | succ calls ih =>
      rw [ByteReader.afterCalls, placed.next_byBytes]
      exact ih placed.next

end Tokenizer.WellPlaced

/-- Whatever the format is and however often the tokenizer has been called,
also after a fault and after the end, its position is within the format and
the beginning of a character or the end.  So is the position behind a count,
where the format is cut to see the type code.  Reading the format by its bytes
therefore never fails, neither so far nor in the next call, and yields the same
items and positions. -/
theorem tokenizer_reads_whole_characters {format : String} {calls : Nat}
    {tokenizer : Tokenizer}
    (reached :
      Tokenizer.afterCalls calls (Tokenizer.ofString format) = tokenizer) :
    (tokenizer.position ≤ format.utf8ByteSize ∧
        (String.Pos.Raw.mk tokenizer.position).IsValid format) ∧
      (∀ count middle, tokenizer.cursor.scanCount = .read count middle →
        ByteReader.scanCount format tokenizer.position =
            some (.ok count, middle.position) ∧
          (String.Pos.Raw.mk middle.position).IsValid format ∧
          ByteReader.suffix? format middle.position =
            some (String.ofList middle.rest)) ∧
      ByteReader.afterCalls calls (ByteReader.ofString format) =
        some tokenizer.byBytes ∧
      tokenizer.byBytes.next =
        some (tokenizer.next.1, tokenizer.next.2.byBytes) := by
  have begun := Tokenizer.wellPlaced_ofString format
  have stands : tokenizer.cursor.StandsIn format := by
    rw [← reached]
    exact (Tokenizer.onward_afterCalls calls _).standsIn begun
  have placed := begun.afterCalls calls
  have soFar := begun.afterCalls_byBytes calls
  rw [reached] at placed soFar
  refine ⟨⟨stands.position_le, stands.isValid⟩, ?_, soFar,
    placed.next_byBytes⟩
  intro count middle reading
  have onward := tokenizer.cursor.onward_scanCount
  have countedBytes := ByteReader.scanCount_eq stands
  rw [reading] at onward countedBytes
  have counted : middle.StandsIn format := onward.standsIn stands
  exact ⟨countedBytes, counted.isValid, counted.suffix?_eq⟩

/-- Behind the count of the second entry a character of two bytes begins. -/
theorem tokenizer_reads_whole_characters_before_accented_letter :
    (Tokenizer.afterCalls 1
        (Tokenizer.ofString "2s12é")).cursor.scanCount =
        .read (some 12) ⟨['é'], 4⟩ ∧
      (String.Pos.Raw.mk 4).IsValid "2s12é" ∧
      ByteReader.suffix? "2s12é" 4 = some "é" := by
  have reading : (Tokenizer.afterCalls 1
      (Tokenizer.ofString "2s12é")).cursor.scanCount =
      .read (some 12) ⟨['é'], 4⟩ := rfl
  have safe := (tokenizer_reads_whole_characters rfl).2.1 _ _ reading
  exact ⟨reading, safe.2.1, safe.2.2⟩

end WireOrder
