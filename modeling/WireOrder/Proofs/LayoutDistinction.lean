import WireOrder.Proofs.ConversionCourse
import WireOrder.Proofs.LayoutGrammar

/-!
# Which formats convert alike

A conversion depends on the fields its format stands for and not on how the
format counts them.  Conversely every field can be told from outside: a buffer
that ends where the field begins is refused with the width of the field, and
goes through if there is no field.  Two well-formed formats therefore convert
alike exactly if they stand for the same fields, which is the case exactly if
one can be rewritten into the other entry by entry.
-/

namespace WireOrder

/-! ## Telling fields by their refusals -/

theorem Field.width_injective {first second : Field}
    (same : first.width = second.width) : first = second := by
  cases first <;> cases second <;> simp_all [width]

/-- A buffer that ends where a field begins is refused for the sake of this
field. -/
theorem ending_at_boundary {items : List Item} {before after : List Field}
    (faultless : firstFault? items = none)
    (split : fieldsOf (leading items) = before ++ after) :
    ending items (widthOf before) =
      after.head?.map fun field =>
        .bufferTooShort (widthOf before) field.width (widthOf before) := by
  cases after with
  | nil =>
      rw [List.append_nil] at split
      have whole : lengthOf (leading items) = widthOf before := by
        rw [← widthOf_fieldsOf, split]
      exact (course_of_fits (Nat.le_of_eq whole)).2.trans faultless
  | cons field after =>
      have overrun : widthOf before < widthOf before + field.width :=
        Nat.lt_add_of_pos_right field.width_pos
      exact (course_of_overrun split (Nat.le_refl _) overrun).2

section Agreement

variable {first second : List Item} {before firstAfter secondAfter : List Field}

theorem head?_eq_of_ending_eq
    (firstFaultless : firstFault? first = none)
    (secondFaultless : firstFault? second = none)
    (same : ∀ length, length ≤ lengthOf (leading first) →
      ending first length = ending second length)
    (firstSplit : fieldsOf (leading first) = before ++ firstAfter)
    (secondSplit : fieldsOf (leading second) = before ++ secondAfter) :
    firstAfter.head? = secondAfter.head? := by
  have within : widthOf before ≤ lengthOf (leading first) := by
    rw [← widthOf_fieldsOf, firstSplit, widthOf_append]
    exact Nat.le_add_right _ _
  have sameHere := same (widthOf before) within
  rw [ending_at_boundary firstFaultless firstSplit,
    ending_at_boundary secondFaultless secondSplit] at sameHere
  apply Option.map_injective _ sameHere
  intro field other sameFault
  exact Field.width_injective (Fault.bufferTooShort.inj sameFault).2.1

theorem after_eq_of_ending_eq
    (firstFaultless : firstFault? first = none)
    (secondFaultless : firstFault? second = none)
    (same : ∀ length, length ≤ lengthOf (leading first) →
      ending first length = ending second length)
    (firstSplit : fieldsOf (leading first) = before ++ firstAfter)
    (secondSplit : fieldsOf (leading second) = before ++ secondAfter) :
    firstAfter = secondAfter := by
  induction firstAfter generalizing before secondAfter with
  | nil =>
      have sameHead := head?_eq_of_ending_eq firstFaultless secondFaultless
        same firstSplit secondSplit
      exact (List.head?_eq_none_iff.mp sameHead.symm).symm
  | cons field firstAfter ih =>
      have sameHead := head?_eq_of_ending_eq firstFaultless secondFaultless
        same firstSplit secondSplit
      obtain ⟨later, rfl⟩ := List.head?_eq_some_iff.mp sameHead.symm
      -- The common field joins those before, where the next one is compared.
      rw [List.append_cons] at firstSplit secondSplit
      exact congrArg (field :: ·) (ih firstSplit secondSplit)

/-- Items without a fault that end alike in every buffer stand for the same
fields. -/
theorem fieldsOf_eq_of_ending_eq
    (firstFaultless : firstFault? first = none)
    (secondFaultless : firstFault? second = none)
    (same : ∀ length, length ≤ lengthOf (leading first) →
      ending first length = ending second length) :
    fieldsOf (leading first) = fieldsOf (leading second) :=
  after_eq_of_ending_eq firstFaultless secondFaultless same
    (List.nil_append _).symm (List.nil_append _).symm

theorem exists_ending_ne (firstFaultless : firstFault? first = none)
    (secondFaultless : firstFault? second = none)
    (different : fieldsOf (leading first) ≠ fieldsOf (leading second)) :
    ∃ length, length ≤ lengthOf (leading first) ∧
      ending first length ≠ ending second length := by
  apply Classical.byContradiction
  intro never
  apply different
  apply fieldsOf_eq_of_ending_eq firstFaultless secondFaultless
  intro length within
  apply Classical.byContradiction
  intro tells
  exact never ⟨length, within, tells⟩

theorem convertItems_eq_of_fieldsOf_eq
    (firstFaultless : firstFault? first = none)
    (secondFaultless : firstFault? second = none)
    (same : fieldsOf (leading first) = fieldsOf (leading second))
    (direction : Direction) (buffer : Bytes) :
    convertItems direction first buffer =
      convertItems direction second buffer := by
  have sameEnding : ending first buffer.length =
      ending second buffer.length := by
    rw [ending, ending, same, firstFaultless, secondFaultless]
  have sameReached : convertedFields first buffer.length =
      convertedFields second buffer.length := by
    rw [convertedFields, convertedFields, convertedSpans, convertedSpans, same]
  rw [convertItems_eq, convertItems_eq, sameEnding, sameReached]

end Agreement

theorem exists_fault_convert_ne {first second : String}
    (firstFaultless : firstFault? (Tokenizer.ofString first).items = none)
    (secondFaultless : firstFault? (Tokenizer.ofString second).items = none)
    (different : fieldsOf (leading (Tokenizer.ofString first).items) ≠
      fieldsOf (leading (Tokenizer.ofString second).items)) :
    ∃ length, length ≤ lengthOf (leading (Tokenizer.ofString first).items) ∧
      ∀ direction (buffer : Bytes), buffer.length = length →
        (convert direction first buffer).fault ≠
          (convert direction second buffer).fault := by
  obtain ⟨length, within, tells⟩ :=
    exists_ending_ne firstFaultless secondFaultless different
  refine ⟨length, within, ?_⟩
  intro direction buffer sameLength
  rw [convert_eq, convert_eq, sameLength]
  exact tells

/-! ## Rewriting a format -/

namespace Entry

/-- The shortest entry that stands for a single field. -/
def single (field : Field) : Entry :=
  ⟨[], field⟩

theorem valid_single (field : Field) : (single field).Valid := by
  have one : (single field).count = 1 := rfl
  refine ⟨?_, ?_⟩
  · intro digit member
    cases member
  · rw [one]
    decide

end Entry

/-- One way of writing fields can be rewritten into another one, always by
valid entries: an entry may be written with other digits that denote the same
count, and an entry may be split into two of its kind that share its count. -/
inductive Rewrites : List Entry → List Entry → Prop where
  | recount {entry other : Entry} :
      entry.Valid → other.Valid → entry.token = other.token →
      Rewrites [entry] [other]
  | split {whole front back : Entry} :
      whole.Valid → front.Valid → back.Valid →
      front.field = whole.field → back.field = whole.field →
      whole.count = front.count + back.count →
      Rewrites [whole] [front, back]
  | append {first second firstLater secondLater : List Entry} :
      Rewrites first second → Rewrites firstLater secondLater →
      Rewrites (first ++ firstLater) (second ++ secondLater)
  | refl (entries : List Entry) : Rewrites entries entries
  | symm {first second : List Entry} :
      Rewrites first second → Rewrites second first
  | trans {first second third : List Entry} :
      Rewrites first second → Rewrites second third → Rewrites first third

namespace Rewrites

theorem fieldsOf_eq {first second : List Entry}
    (rewrites : Rewrites first second) :
    fieldsOf (first.map Entry.token) = fieldsOf (second.map Entry.token) := by
  induction rewrites with
  | recount _ _ sameToken => simp only [List.map_cons, sameToken]
  | @split whole front back _ _ _ frontField backField shared =>
      simp only [fieldsOf, Token.fields, Entry.token, List.map_cons,
        List.map_nil, List.flatMap_cons, List.flatMap_nil, List.append_nil,
        frontField, backField, shared, List.replicate_append_replicate]
  | append _ _ ih laterIh =>
      simp only [List.map_append, fieldsOf_append, ih, laterIh]
  | refl => rfl
  | symm _ ih => exact ih.symm
  | trans _ _ ih laterIh => exact ih.trans laterIh

theorem singles_of_count {entry : Entry} {more : Nat} (valid : entry.Valid)
    (counted : entry.count = more + 1) :
    Rewrites [entry]
      ((List.replicate (more + 1) entry.field).map Entry.single) := by
  induction more generalizing entry with
  | zero =>
      have sameToken : entry.token = (Entry.single entry.field).token :=
        congrArg (Token.mk · entry.field) counted
      exact .recount valid (Entry.valid_single entry.field) sameToken
  | succ more ih =>
      -- One field is split off and the others are written as one entry.
      let rest := Entry.ofToken ⟨more + 1, entry.field⟩
      have restCount : rest.count = more + 1 :=
        congrArg Token.count (Entry.token_ofToken ⟨more + 1, entry.field⟩)
      have restValid : rest.Valid := by
        apply Entry.valid_ofToken
        · exact Nat.succ_pos more
        · have small := valid.2.2
          rw [counted] at small
          exact Nat.lt_of_succ_lt small
      have shared :
          entry.count = (Entry.single entry.field).count + rest.count := by
        rw [counted, restCount]
        exact Nat.add_comm (more + 1) 1
      have divided : Rewrites [entry] [Entry.single entry.field, rest] :=
        .split valid (Entry.valid_single entry.field) restValid rfl rfl shared
      exact divided.trans
        ((refl [Entry.single entry.field]).append (ih restValid restCount))

theorem singles {entries : List Entry}
    (valid : ∀ entry ∈ entries, entry.Valid) :
    Rewrites entries
      ((fieldsOf (entries.map Entry.token)).map Entry.single) := by
  induction entries with
  | nil => exact .refl []
  | cons entry entries ih =>
      obtain ⟨entryValid, laterValid⟩ := List.forall_mem_cons.mp valid
      obtain ⟨more, counted⟩ :=
        Nat.exists_eq_add_one.mpr entryValid.2.1
      have whole :=
        (singles_of_count entryValid counted).append (ih laterValid)
      rw [← counted, List.singleton_append, ← List.map_append] at whole
      exact whole

/-- What stands for the same fields can be rewritten into one another. -/
theorem of_fieldsOf_eq {first second : List Entry}
    (firstValid : ∀ entry ∈ first, entry.Valid)
    (secondValid : ∀ entry ∈ second, entry.Valid)
    (same : fieldsOf (first.map Entry.token) =
      fieldsOf (second.map Entry.token)) :
    Rewrites first second := by
  have toSingles := singles firstValid
  rw [same] at toSingles
  exact toSingles.trans (singles secondValid).symm

end Rewrites

theorem fieldsOf_eq_iff_rewrites {first second : List Entry}
    (firstValid : ∀ entry ∈ first, entry.Valid)
    (secondValid : ∀ entry ∈ second, entry.Valid) :
    fieldsOf (first.map Entry.token) = fieldsOf (second.map Entry.token) ↔
      Rewrites first second :=
  ⟨Rewrites.of_fieldsOf_eq firstValid secondValid, Rewrites.fieldsOf_eq⟩

/-- Two well-formed formats, one of them short enough for a buffer, convert
alike in every buffer and in both directions exactly if they stand for the
same sequence of fields.  If they do not, there is a length at which every
buffer is refused, or else accepted, for different reasons.  Formats that stand
for the same fields are exactly those that can be rewritten into one another by
other digits for a count, no digits for a count of one, and splitting and
merging entries of one kind. -/
theorem same_conversions_iff_same_fields (first second : String)
    (firstAccepted : ∀ fault, .error fault ∉ (Tokenizer.ofString first).items)
    (secondAccepted :
      ∀ fault, .error fault ∉ (Tokenizer.ofString second).items)
    (small : lengthOf
      (Tokenizer.tokensAmong (Tokenizer.ofString first).items) <
        bufferLimit) :
    let firstFields :=
      fieldsOf (Tokenizer.tokensAmong (Tokenizer.ofString first).items)
    let secondFields :=
      fieldsOf (Tokenizer.tokensAmong (Tokenizer.ofString second).items)
    ((∀ direction (buffer : Bytes), buffer.length < bufferLimit →
        convert direction first buffer = convert direction second buffer) ↔
      firstFields = secondFields) ∧
    (firstFields ≠ secondFields →
      ∃ length, length < bufferLimit ∧
        ∀ direction (buffer : Bytes), buffer.length = length →
          (convert direction first buffer).fault ≠
            (convert direction second buffer).fault) ∧
    ∀ firstEntries secondEntries, ConsistsOf first firstEntries →
      ConsistsOf second secondEntries →
      (firstFields = secondFields ↔ Rewrites firstEntries secondEntries) := by
  have firstFaultless := firstFault?_eq_none_iff.mpr firstAccepted
  have secondFaultless := firstFault?_eq_none_iff.mpr secondAccepted
  rw [← leading_eq_tokensAmong firstFaultless] at small ⊢
  rw [← leading_eq_tokensAmong secondFaultless]
  intro firstFields secondFields
  have told : firstFields ≠ secondFields →
      ∃ length, length < bufferLimit ∧
        ∀ direction (buffer : Bytes), buffer.length = length →
          (convert direction first buffer).fault ≠
            (convert direction second buffer).fault := by
    intro different
    obtain ⟨length, within, tells⟩ :=
      exists_fault_convert_ne firstFaultless secondFaultless different
    exact ⟨length, Nat.lt_of_le_of_lt within small, tells⟩
  refine ⟨⟨?_, ?_⟩, told, ?_⟩
  · intro alike
    apply Classical.byContradiction
    intro different
    obtain ⟨length, inRange, tells⟩ := told different
    have sized : (List.replicate length (0 : UInt8)).length = length :=
      List.length_replicate
    apply tells .hostToNetwork _ sized
    rw [alike .hostToNetwork _ (sized.symm ▸ inRange)]
  · intro same direction buffer _
    exact convertItems_eq_of_fieldsOf_eq firstFaultless secondFaultless same
      direction buffer
  · intro firstEntries secondEntries firstCut secondCut
    have sameFields := fieldsOf_eq_iff_rewrites firstCut.valid secondCut.valid
    rw [← firstCut.leading_items, ← secondCut.leading_items] at sameFields
    exact sameFields

/-- Splitting a count and writing a zero before it make no difference;
merging two short integers into an integer does. -/
theorem same_conversions_iff_same_fields_of_short_integers :
    (∀ fault, .error fault ∉ (Tokenizer.ofString "5s").items) ∧
      (∀ fault, .error fault ∉ (Tokenizer.ofString "02s3s").items) ∧
      (∀ fault, .error fault ∉ (Tokenizer.ofString "3si").items) ∧
      lengthOf (Tokenizer.tokensAmong (Tokenizer.ofString "5s").items) <
        bufferLimit ∧
      (∀ direction (buffer : Bytes), buffer.length < bufferLimit →
        convert direction "5s" buffer = convert direction "02s3s" buffer) ∧
      ∃ length, length < bufferLimit ∧
        ∀ direction (buffer : Bytes), buffer.length = length →
          (convert direction "5s" buffer).fault ≠
            (convert direction "3si" buffer).fault := by
  have whole : ∀ fault, .error fault ∉ (Tokenizer.ofString "5s").items :=
    firstFault?_eq_none_iff.mp (by decide +kernel)
  have divided :
      ∀ fault, .error fault ∉ (Tokenizer.ofString "02s3s").items :=
    firstFault?_eq_none_iff.mp (by decide +kernel)
  have merged : ∀ fault, .error fault ∉ (Tokenizer.ofString "3si").items :=
    firstFault?_eq_none_iff.mp (by decide +kernel)
  have small :
      lengthOf (Tokenizer.tokensAmong (Tokenizer.ofString "5s").items) <
        bufferLimit := by decide +kernel
  obtain ⟨alike, _⟩ :=
    same_conversions_iff_same_fields "5s" "02s3s" whole divided small
  obtain ⟨_, told, _⟩ :=
    same_conversions_iff_same_fields "5s" "3si" whole merged small
  exact ⟨whole, divided, merged, small, alike.mpr (by decide +kernel),
    told (by decide +kernel)⟩

end WireOrder
