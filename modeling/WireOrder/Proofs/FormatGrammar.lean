import WireOrder.Grammar

/-!
# Cutting a format into entries

A type code is not a digit, so an entry ends at the first character that is
not a digit, whatever comes after it.  Hence no two entries begin the same
text, and a text is cut into entries in at most one way.  Cutting off entries
as long as one is there leaves a tail at which no entry begins, and no other
way of cutting gets further than that.
-/

namespace WireOrder

/-- All of the characters are decimal digits. -/
def Numeric (characters : List Char) : Prop :=
  ∀ character ∈ characters, character.isDigit

/-- The text does not go on with a decimal digit. -/
def NoDigitAhead (characters : List Char) : Prop :=
  ∀ character ∈ characters.head?, character.isDigit = false

/-- The text begins with a valid entry. -/
def EntryAhead (characters : List Char) : Prop :=
  ∃ entry : Entry, ∃ rest, entry.Valid ∧ characters = entry.text ++ rest

namespace Field

theorem isDigit_code (field : Field) : field.code.isDigit = false := by
  cases field <;> rfl

theorem utf8Size_code (field : Field) : field.code.utf8Size = 1 := by
  cases field <;> rfl

theorem code_injective {first second : Field}
    (same : first.code = second.code) : first = second := by
  have decoded := congrArg ofCode? same
  rw [ofCode?_code, ofCode?_code] at decoded
  exact Option.some.inj decoded

end Field

theorem noDigitAhead_code (field : Field) (rest : List Char) :
    NoDigitAhead (field.code :: rest) := by
  intro character member
  cases member
  exact field.isDigit_code

theorem takeWhile_isDigit {digits rest : List Char}
    (numeric : Numeric digits) (ended : NoDigitAhead rest) :
    (digits ++ rest).takeWhile Char.isDigit = digits := by
  rw [List.takeWhile_append_of_pos numeric]
  cases rest with
  | nil => exact List.append_nil digits
  | cons character rest =>
      have stop : character.isDigit = false := ended character rfl
      simp [stop]

theorem numeric_append_inj {first second firstRest secondRest : List Char}
    (firstNumeric : Numeric first) (firstEnded : NoDigitAhead firstRest)
    (secondNumeric : Numeric second) (secondEnded : NoDigitAhead secondRest)
    (same : first ++ firstRest = second ++ secondRest) :
    first = second ∧ firstRest = secondRest := by
  have digits : first = second := by
    rw [← takeWhile_isDigit firstNumeric firstEnded, same,
      takeWhile_isDigit secondNumeric secondEnded]
  subst digits
  exact ⟨rfl, List.append_cancel_left same⟩

theorem numeric_takeWhile (characters : List Char) :
    Numeric (characters.takeWhile Char.isDigit) := by
  intro character member
  exact List.all_eq_true.mp List.all_takeWhile character member

theorem noDigitAhead_dropWhile (characters : List Char) :
    NoDigitAhead (characters.dropWhile Char.isDigit) := by
  intro character member
  have stop := List.head?_dropWhile_not Char.isDigit characters
  rw [Option.mem_def.mp member] at stop
  exact stop

namespace Entry

theorem text_ne_nil (entry : Entry) : entry.text ≠ [] := by
  simp [text]

theorem text_append (entry : Entry) (rest : List Char) :
    entry.text ++ rest = entry.digits ++ entry.field.code :: rest := by
  simp [text]

/-- No two valid entries begin the same text. -/
theorem text_append_inj {first second : Entry}
    {firstRest secondRest : List Char}
    (firstValid : first.Valid) (secondValid : second.Valid)
    (same : first.text ++ firstRest = second.text ++ secondRest) :
    first = second ∧ firstRest = secondRest := by
  rw [text_append, text_append] at same
  obtain ⟨sameDigits, sameTail⟩ :=
    numeric_append_inj firstValid.1 (noDigitAhead_code _ _)
      secondValid.1 (noDigitAhead_code _ _) same
  obtain ⟨sameCode, sameRest⟩ := List.cons.inj sameTail
  have sameField := Field.code_injective sameCode
  cases first
  cases second
  cases sameDigits
  cases sameField
  exact ⟨rfl, sameRest⟩

end Entry

theorem entryAhead_append_iff {digits rest : List Char}
    (numeric : Numeric digits) (ended : NoDigitAhead rest) :
    EntryAhead (digits ++ rest) ↔
      (0 < countOf digits ∧ countOf digits < countLimit) ∧
        (rest.head?.bind Field.ofCode?).isSome := by
  constructor
  · intro ahead
    obtain ⟨entry, later, ⟨entryNumeric, inRange⟩, split⟩ := ahead
    rw [Entry.text_append] at split
    obtain ⟨rfl, rfl⟩ :=
      numeric_append_inj numeric ended entryNumeric
        (noDigitAhead_code _ _) split
    exact ⟨inRange, by simp⟩
  · intro description
    obtain ⟨inRange, coded⟩ := description
    cases rest with
    | nil => cases coded
    | cons character rest =>
        obtain ⟨field, decoded⟩ := Option.isSome_iff_exists.mp coded
        have code : character = field.code :=
          Field.ofCode?_eq_some_iff.mp decoded
        refine ⟨⟨digits, field⟩, rest, ⟨numeric, inRange⟩, ?_⟩
        rw [Entry.text_append, code]

theorem entryAhead_iff {characters : List Char} :
    EntryAhead characters ↔
      (0 < countOf (characters.takeWhile Char.isDigit) ∧
          countOf (characters.takeWhile Char.isDigit) < countLimit) ∧
        ((characters.dropWhile Char.isDigit).head?.bind
          Field.ofCode?).isSome := by
  rw [← entryAhead_append_iff (numeric_takeWhile characters)
    (noDigitAhead_dropWhile characters), List.takeWhile_append_dropWhile]

instance (characters : List Char) : Decidable (EntryAhead characters) :=
  decidable_of_iff _ entryAhead_iff.symm

theorem not_entryAhead_nil : ¬ EntryAhead [] := by
  intro ahead
  obtain ⟨entry, rest, _, split⟩ := ahead
  exact entry.text_ne_nil (List.append_eq_nil_iff.mp split.symm).1

theorem isPrefix_of_not_entryAhead {first second : List Entry}
    {ending tail : List Char}
    (firstValid : ∀ entry ∈ first, entry.Valid)
    (secondValid : ∀ entry ∈ second, entry.Valid)
    (stuck : ¬ EntryAhead tail)
    (same : first.flatMap Entry.text ++ ending =
      second.flatMap Entry.text ++ tail) :
    first <+: second := by
  -- Both sequences are peeled from the front; the second cannot run out
  -- first, because no entry begins at the tail behind it.
  induction first generalizing second with
  | nil => exact List.nil_prefix
  | cons entry first ih =>
      obtain ⟨entryValid, laterValid⟩ := List.forall_mem_cons.mp firstValid
      rw [List.flatMap_cons, List.append_assoc] at same
      cases second with
      | nil => exact absurd ⟨entry, _, entryValid, same.symm⟩ stuck
      | cons other second =>
          obtain ⟨otherValid, othersValid⟩ :=
            List.forall_mem_cons.mp secondValid
          rw [List.flatMap_cons, List.append_assoc] at same
          obtain ⟨rfl, sameLater⟩ :=
            Entry.text_append_inj entryValid otherValid same
          exact List.cons_prefix_cons.mpr
            ⟨rfl, ih laterValid othersValid sameLater⟩

/-- Every text can be cut into entries up to a tail at which none begins. -/
theorem exists_cut (characters : List Char) :
    ∃ (entries : List Entry) (tail : List Char),
      (∀ entry ∈ entries, entry.Valid) ∧
        characters = entries.flatMap Entry.text ++ tail ∧
        ¬ EntryAhead tail := by
  by_cases ahead : EntryAhead characters
  · obtain ⟨entry, rest, entryValid, begins⟩ := ahead
    obtain ⟨entries, tail, valid, split, stuck⟩ := exists_cut rest
    refine ⟨entry :: entries, tail, ?_, ?_, stuck⟩
    · exact List.forall_mem_cons.mpr ⟨entryValid, valid⟩
    · rw [begins, List.flatMap_cons, List.append_assoc, ← split]
  · exact ⟨[], characters, by simp, rfl, ahead⟩
termination_by characters.length
decreasing_by
  have nonempty : 0 < entry.text.length :=
    List.length_pos_iff.mpr entry.text_ne_nil
  rw [begins, List.length_append]
  omega

theorem count_inRange_of_valid {entries : List Entry}
    (valid : ∀ entry ∈ entries, entry.Valid) :
    ∀ token ∈ entries.map Entry.token,
      0 < token.count ∧ token.count < countLimit := by
  intro token member
  obtain ⟨entry, entryMember, rfl⟩ := List.mem_map.mp member
  exact (valid entry entryMember).2

@[simp] theorem toList_formatText (entries : List Entry) :
    (formatText entries).toList = entries.flatMap Entry.text :=
  String.toList_ofList

theorem formatText_append (first second : List Entry) :
    formatText (first ++ second) = formatText first ++ formatText second := by
  simp [formatText, String.ofList_append]

/-- The format is the concatenation of the given entries, all of them
valid. -/
structure ConsistsOf (format : String) (entries : List Entry) : Prop where
  valid : ∀ entry ∈ entries, entry.Valid
  text_eq : format = formatText entries

theorem wellFormed_iff_consistsOf {format : String} :
    WellFormed format ↔ ∃ entries, ConsistsOf format entries := by
  constructor
  · intro wellFormed
    obtain ⟨entries, valid, text⟩ := wellFormed
    exact ⟨entries, valid, text⟩
  · intro consists
    obtain ⟨entries, valid, text⟩ := consists
    exact ⟨entries, valid, text⟩

/-- The entries of a format are determined by the format. -/
theorem ConsistsOf.unique {format : String} {first second : List Entry}
    (firstCut : ConsistsOf format first)
    (secondCut : ConsistsOf format second) : first = second := by
  have same : first.flatMap Entry.text = second.flatMap Entry.text := by
    rw [← toList_formatText, ← toList_formatText, ← firstCut.text_eq,
      ← secondCut.text_eq]
  have forwards : first <+: second :=
    isPrefix_of_not_entryAhead firstCut.valid secondCut.valid
      not_entryAhead_nil (congrArg (· ++ []) same)
  have backwards : second <+: first :=
    isPrefix_of_not_entryAhead secondCut.valid firstCut.valid
      not_entryAhead_nil (congrArg (· ++ []) same.symm)
  exact forwards.eq_of_length_le backwards.length_le

end WireOrder
