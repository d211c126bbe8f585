import WireOrder.Proofs.FormatDissection
import WireOrder.Tokenizer

/-!
# Where a cursor stands

A cursor counts bytes and holds characters.  The two belong together as long as
the characters it holds are those of the format behind the bytes it has
counted; its position is then the beginning of a character or the end of the
format.  Whatever is read, and wherever that gets stuck, the cursor has only
stepped over whole characters, so it is left at such a place again and never
further back.
-/

namespace WireOrder

namespace Cursor

/-- The cursor holds the characters of the format behind its position. -/
def StandsIn (format : String) (cursor : Cursor) : Prop :=
  ∃ front, format = front ++ String.ofList cursor.rest ∧
    cursor.position = front.utf8ByteSize

variable {format : String}

theorem standsIn_start (format : String) : (start format).StandsIn format := by
  refine ⟨"", ?_, rfl⟩
  rw [String.empty_append]
  exact String.ofList_toList.symm

namespace StandsIn

variable {cursor : Cursor}

theorem position_le (stands : cursor.StandsIn format) :
    cursor.position ≤ format.utf8ByteSize := by
  obtain ⟨front, rfl, counted⟩ := stands
  rw [counted, String.utf8ByteSize_append]
  exact Nat.le_add_right _ _

theorem isValid (stands : cursor.StandsIn format) :
    (String.Pos.Raw.mk cursor.position).IsValid format := by
  obtain ⟨front, split, counted⟩ := stands
  rw [String.Pos.Raw.isValid_iff_exists_append]
  exact ⟨front, String.ofList cursor.rest, split, String.Pos.Raw.ext counted⟩

theorem step {character : Char} {rest : List Char} {position : Nat}
    (stands : StandsIn format ⟨character :: rest, position⟩) :
    StandsIn format ⟨rest, position + character.utf8Size⟩ := by
  obtain ⟨front, split, counted⟩ := stands
  refine ⟨front ++ String.singleton character, ?_, ?_⟩
  · rw [split, String.append_assoc, String.ofList_cons]
  · rw [String.utf8ByteSize_append, String.utf8ByteSize_singleton]
    exact congrArg (· + character.utf8Size) counted

theorem rest_eq_nil_iff (stands : cursor.StandsIn format) :
    cursor.rest = [] ↔ format.utf8ByteSize ≤ cursor.position := by
  obtain ⟨front, rfl, counted⟩ := stands
  rw [counted, String.utf8ByteSize_append, ← String.ofList_eq_empty_iff,
    ← String.utf8ByteSize_eq_zero_iff]
  omega

end StandsIn

end Cursor

/-- Where an outcome leaves the cursor. -/
def Outcome.place : Outcome α → Cursor
  | .read _ after => after
  | .stuck _ place => place

namespace Cursor

/-- A cursor from which some characters may have been stepped over. -/
inductive Onward (origin : Cursor) : Cursor → Prop where
  | here : Onward origin origin
  | step {character : Char} {rest : List Char} {position : Nat} :
      Onward origin ⟨character :: rest, position⟩ →
      Onward origin ⟨rest, position + character.utf8Size⟩

namespace Onward

variable {origin middle cursor : Cursor}

theorem trans (earlier : origin.Onward middle)
    (later : middle.Onward cursor) : origin.Onward cursor := by
  induction later with
  | here => exact earlier
  | step _ ih => exact .step ih

theorem position_le (onward : origin.Onward cursor) :
    origin.position ≤ cursor.position := by
  induction onward with
  | here => exact Nat.le_refl _
  | step _ ih => exact Nat.le_trans ih (Nat.le_add_right _ _)

theorem standsIn {format : String} (onward : origin.Onward cursor)
    (stands : origin.StandsIn format) : cursor.StandsIn format := by
  induction onward with
  | here => exact stands
  | step _ ih => exact StandsIn.step ih

end Onward

/-! ## Reading moves onward -/

theorem onward_numeral (origin value : Nat) (rest : List Char)
    (position : Nat) :
    Onward ⟨rest, position⟩
      (numeral origin value rest position).place := by
  induction rest generalizing value position with
  | nil => exact .here
  | cons character rest ih =>
      unfold numeral
      by_cases digit : character.isDigit = true
      · rw [if_pos digit]
        dsimp only
        by_cases small :
            10 * value + (character.toNat - '0'.toNat) < countLimit
        · rw [if_pos small]
          have stepped : Onward ⟨character :: rest, position⟩
              ⟨rest, position + character.utf8Size⟩ := .step .here
          rw [utf8Size_of_isDigit digit] at stepped
          exact stepped.trans (ih _ _)
        · rw [if_neg small]
          exact .here
      · rw [if_neg digit]
        exact .here

theorem onward_scanCount (cursor : Cursor) :
    cursor.Onward cursor.scanCount.place := by
  have onward := onward_numeral cursor.position 0 cursor.rest
    cursor.position
  unfold scanCount
  cases reading : numeral cursor.position 0 cursor.rest cursor.position with
  | stuck fault place =>
      rw [reading] at onward
      exact onward
  | read count after =>
      rw [reading] at onward
      dsimp only
      by_cases unmoved : after.position = cursor.position
      · rw [if_pos unmoved]
        exact onward
      · rw [if_neg unmoved]
        by_cases zero : count = 0
        · rw [if_pos zero]
          exact onward
        · rw [if_neg zero]
          exact onward

theorem onward_scanCode (cursor : Cursor) :
    cursor.Onward cursor.scanCode.place := by
  obtain ⟨rest, position⟩ := cursor
  cases rest with
  | nil => exact .here
  | cons character rest =>
      simp only [scanCode]
      cases Field.ofCode? character with
      | none => exact .here
      | some field => exact .step .here

theorem onward_scanEntry (cursor : Cursor) :
    cursor.Onward cursor.scanEntry.place := by
  have counted := onward_scanCount cursor
  unfold scanEntry
  cases reading : cursor.scanCount with
  | stuck fault place =>
      rw [reading] at counted
      exact counted
  | read count middle =>
      rw [reading] at counted
      have coded := onward_scanCode middle
      dsimp only
      cases decoding : middle.scanCode with
      | stuck fault place =>
          rw [decoding] at coded
          exact counted.trans coded
      | read field after =>
          rw [decoding] at coded
          exact counted.trans coded

end Cursor

namespace Tokenizer

theorem next_format (tokenizer : Tokenizer) :
    tokenizer.next.2.format = tokenizer.format := by
  unfold next
  split
  · rfl
  · split
    · rfl
    · rfl

theorem afterCalls_format (calls : Nat) (tokenizer : Tokenizer) :
    (afterCalls calls tokenizer).format = tokenizer.format := by
  induction calls generalizing tokenizer with
  | zero => rfl
  | succ calls ih => rw [afterCalls, ih, next_format]

theorem onward_next (tokenizer : Tokenizer) :
    tokenizer.cursor.Onward tokenizer.next.2.cursor := by
  have onward := tokenizer.cursor.onward_scanEntry
  unfold next
  by_cases silent :
      (tokenizer.failed || tokenizer.cursor.rest.isEmpty) = true
  · rw [if_pos silent]
    exact .here
  · rw [if_neg silent]
    cases reading : tokenizer.cursor.scanEntry with
    | read token after =>
        rw [reading] at onward
        exact onward
    | stuck fault place =>
        rw [reading] at onward
        exact onward

theorem onward_afterCalls (calls : Nat) (tokenizer : Tokenizer) :
    tokenizer.cursor.Onward (afterCalls calls tokenizer).cursor := by
  induction calls generalizing tokenizer with
  | zero => exact .here
  | succ calls ih => exact tokenizer.onward_next.trans (ih tokenizer.next.2)

/-- The cursor of the tokenizer stands in its format. -/
def WellPlaced (tokenizer : Tokenizer) : Prop :=
  tokenizer.cursor.StandsIn tokenizer.format

theorem wellPlaced_ofString (format : String) :
    (ofString format).WellPlaced :=
  Cursor.standsIn_start format

theorem WellPlaced.next {tokenizer : Tokenizer}
    (placed : tokenizer.WellPlaced) : tokenizer.next.2.WellPlaced := by
  unfold WellPlaced
  rw [next_format]
  exact tokenizer.onward_next.standsIn placed

theorem WellPlaced.afterCalls {tokenizer : Tokenizer}
    (placed : tokenizer.WellPlaced) (calls : Nat) :
    (Tokenizer.afterCalls calls tokenizer).WellPlaced := by
  unfold WellPlaced
  rw [afterCalls_format]
  exact (onward_afterCalls calls tokenizer).standsIn placed

end Tokenizer

end WireOrder
