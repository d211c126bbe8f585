import WireOrder.Proofs.FormatConcatenation
import WireOrder.Proofs.LayoutLength
import WireOrder.Proofs.TokenizerRun

/-!
# Resuming a tokenizer

A tokenizer that has yielded nothing but tokens goes on as a fresh one would
over what is left of its format.  A format may therefore be cut at every such
place.  In particular a well-formed format with another one behind it is read
as the two are one after the other, and its layout is the two layouts joined.
-/

namespace WireOrder

namespace Tokenizer

/-- Call for call the tokenizer yields what the fresh one yields and stands
where the fresh one stands, with every position moved on by the given number
of bytes. -/
structure Relocates (bytes : Nat) (fresh tokenizer : Tokenizer) : Prop where
  yields : ∀ calls,
    (afterCalls calls tokenizer).next.1 =
      (afterCalls calls fresh).next.1.map
        (Except.mapError (Fault.laterInFormat bytes))
  position_eq : ∀ calls,
    (afterCalls calls tokenizer).position =
      (afterCalls calls fresh).position + bytes

theorem afterCalls_within (text : String) (bytes calls : Nat)
    (tokenizer : Tokenizer) :
    afterCalls calls (tokenizer.within text bytes) =
      (afterCalls calls tokenizer).within text bytes := by
  induction calls generalizing tokenizer with
  | zero => rfl
  | succ calls ih => rw [afterCalls, next_within, ih, afterCalls]

theorem relocates_within (text : String) (bytes : Nat)
    (tokenizer : Tokenizer) :
    Relocates bytes tokenizer (tokenizer.within text bytes) := by
  constructor
  · intro calls
    rw [afterCalls_within, next_within]
  · intro calls
    rw [afterCalls_within]
    rfl

theorem items_afterCalls (calls : Nat) (tokenizer : Tokenizer) :
    (afterCalls calls tokenizer).items = tokenizer.items.drop calls := by
  induction calls generalizing tokenizer with
  | zero => rfl
  | succ calls ih =>
      rw [afterCalls, ih]
      rcases step : tokenizer.next with ⟨yielded, after⟩
      cases yielded with
      | none =>
          cases eq_of_next_none step
          rw [items_of_next_none step, List.drop_nil, List.drop_nil]
      | some item => rw [items_of_next_some step, List.drop_succ_cons]

/-! ## Behind accepted entries -/

/-- The calls so far have all yielded tokens. -/
def Accepts (format : String) (calls : Nat) : Prop :=
  ∀ earlier, earlier < calls →
    ∃ token, (afterCalls earlier (ofString format)).next.1 = some (.ok token)

theorem failed_next_of_token {tokenizer : Tokenizer} {token : Token}
    (yielded : tokenizer.next.1 = some (.ok token)) :
    tokenizer.next.2.failed = false := by
  unfold next at yielded ⊢
  split at yielded
  · cases yielded
  · rename_i ready
    rw [if_neg ready]
    simp only [Bool.or_eq_true, not_or, Bool.not_eq_true] at ready
    cases scanned : tokenizer.cursor.scanEntry with
    | read token after => exact ready.1
    | stuck fault place =>
        rw [scanned] at yielded
        cases yielded

theorem failed_afterCalls_of_accepts {format : String} {calls : Nat}
    (accepts : Accepts format calls) :
    (afterCalls calls (ofString format)).failed = false := by
  cases calls with
  | zero => rfl
  | succ calls =>
      obtain ⟨token, yielded⟩ := accepts calls (Nat.lt_succ_self calls)
      rw [afterCalls_add]
      exact failed_next_of_token yielded

theorem exists_within_of_accepts {format : String} {calls : Nat}
    (accepts : Accepts format calls) :
    ∃ front rest, format = front ++ rest ∧
      afterCalls calls (ofString format) =
        (ofString rest).within format front.utf8ByteSize := by
  have placed := (wellPlaced_ofString format).afterCalls calls
  have sameFormat : (afterCalls calls (ofString format)).format = format :=
    afterCalls_format calls (ofString format)
  have running := failed_afterCalls_of_accepts accepts
  unfold WellPlaced at placed
  rw [sameFormat] at placed
  obtain ⟨front, split, counted⟩ := placed
  refine ⟨front, _, split, ?_⟩
  rcases reached : afterCalls calls (ofString format) with
    ⟨text, ⟨rest, position⟩, failed⟩
  rw [reached] at sameFormat running counted
  cases sameFormat
  cases running
  cases counted
  simp [within, ofString, Cursor.start, Cursor.later]

section Concatenation

variable {first : String} {entries : List Entry}

theorem afterCalls_append (cut : ConsistsOf first entries)
    (second : String) :
    afterCalls entries.length (ofString (first ++ second)) =
      (ofString second).within (first ++ second) first.utf8ByteSize := by
  have moved := afterCalls_of_entries (first ++ second) cut.valid
    second.toList 0
  rw [cut.ofString_append, cut.utf8ByteSize_eq]
  exact moved

theorem position_afterCalls_append (cut : ConsistsOf first entries)
    (second : String) {calls : Nat} (early : calls ≤ entries.length) :
    (afterCalls calls (ofString (first ++ second))).position =
      ((entries.take calls).flatMap Entry.text).length := by
  have valid : ∀ entry ∈ entries.take calls, entry.Valid := by
    intro entry member
    exact cut.valid entry (List.mem_of_mem_take member)
  have moved := afterCalls_of_entries (first ++ second) valid
    ((entries.drop calls).flatMap Entry.text ++ second.toList) 0
  rw [List.length_take_of_le early, ← List.append_assoc,
    ← List.flatMap_append, List.take_append_drop, ← cut.ofString_append]
    at moved
  rw [moved]
  exact Nat.zero_add _

end Concatenation

end Tokenizer

theorem ConsistsOf.append {first second : String}
    {firstEntries secondEntries : List Entry}
    (firstCut : ConsistsOf first firstEntries)
    (secondCut : ConsistsOf second secondEntries) :
    ConsistsOf (first ++ second) (firstEntries ++ secondEntries) := by
  constructor
  · intro entry member
    rcases List.mem_append.mp member with early | late
    · exact firstCut.valid entry early
    · exact secondCut.valid entry late
  · rw [formatText_append, ← firstCut.text_eq, ← secondCut.text_eq]

theorem Layout.parse_append {first second : String}
    {firstLayout secondLayout : Layout}
    (firstParsed : parse first = .ok firstLayout)
    (secondParsed : parse second = .ok secondLayout)
    (small : firstLayout.byteLength + secondLayout.byteLength < sizeLimit) :
    parse (first ++ second) =
      .ok ⟨firstLayout.tokens ++ secondLayout.tokens,
        firstLayout.byteLength + secondLayout.byteLength⟩ := by
  obtain ⟨firstEntries, firstCut, firstTokens, firstLength, _⟩ :=
    parse_eq_ok_iff_consistsOf.mp firstParsed
  obtain ⟨secondEntries, secondCut, secondTokens, secondLength, _⟩ :=
    parse_eq_ok_iff_consistsOf.mp secondParsed
  apply parse_eq_ok_iff_consistsOf.mpr
  refine ⟨_, firstCut.append secondCut, ?_, ?_, small⟩
  · rw [Array.toList_append, firstTokens, secondTokens, List.map_append]
  · rw [firstLength, secondLength, List.map_append, lengthOf_append]

/-- After calls that all yield tokens a tokenizer goes on as a fresh one over
the rest of its format, with every position moved on by what has been read.
So behind a format that is accepted in full another one is read as if it stood
alone, with every position moved on by the length of the first.  Two formats
that have layouts whose lengths add up to a size have a layout together: the
layouts hold what the tokenizers yield, and their tokens and their lengths are
joined. -/
theorem tokenizing_resumes_anywhere :
    (∀ format calls, Tokenizer.Accepts format calls →
      ∃ front rest, format = front ++ rest ∧
        (Tokenizer.afterCalls calls
          (Tokenizer.ofString format)).position = front.utf8ByteSize ∧
        (Tokenizer.ofString format).items.drop calls =
          (Tokenizer.ofString rest).items.map
            (Except.mapError (Fault.laterInFormat front.utf8ByteSize)) ∧
        Tokenizer.Relocates front.utf8ByteSize (Tokenizer.ofString rest)
          (Tokenizer.afterCalls calls (Tokenizer.ofString format))) ∧
    (∀ first second,
      (∀ fault, .error fault ∉ (Tokenizer.ofString first).items) →
      (Tokenizer.ofString (first ++ second)).items =
          (Tokenizer.ofString first).items ++
            (Tokenizer.ofString second).items.map
              (Except.mapError (Fault.laterInFormat first.utf8ByteSize)) ∧
        (∀ calls, calls ≤ (Tokenizer.ofString first).items.length →
          (Tokenizer.afterCalls calls
              (Tokenizer.ofString (first ++ second))).position =
            (Tokenizer.afterCalls calls
              (Tokenizer.ofString first)).position) ∧
        Tokenizer.Relocates first.utf8ByteSize (Tokenizer.ofString second)
          (Tokenizer.afterCalls (Tokenizer.ofString first).items.length
            (Tokenizer.ofString (first ++ second)))) ∧
    ∀ first second firstLayout secondLayout,
      Layout.parse first = .ok firstLayout →
      Layout.parse second = .ok secondLayout →
      firstLayout.byteLength + secondLayout.byteLength < sizeLimit →
      ∃ layout, Layout.parse (first ++ second) = .ok layout ∧
        layout.tokens.toList =
          firstLayout.tokens.toList ++ secondLayout.tokens.toList ∧
        layout.byteLength =
          firstLayout.byteLength + secondLayout.byteLength ∧
        (Tokenizer.ofString first).items =
          firstLayout.tokens.toList.map .ok ∧
        (Tokenizer.ofString second).items =
          secondLayout.tokens.toList.map .ok ∧
        (Tokenizer.ofString (first ++ second)).items =
          layout.tokens.toList.map .ok ∧
        formatLength first = .ok firstLayout.byteLength ∧
        formatLength second = .ok secondLayout.byteLength ∧
        formatLength (first ++ second) =
          .ok (firstLayout.byteLength + secondLayout.byteLength) := by
  refine ⟨?_, ?_, ?_⟩
  · intro format calls accepts
    obtain ⟨front, rest, split, reached⟩ :=
      Tokenizer.exists_within_of_accepts accepts
    refine ⟨front, rest, split, ?_, ?_, ?_⟩
    · rw [reached]
      exact Nat.zero_add _
    · rw [← Tokenizer.items_afterCalls, reached]
      exact Tokenizer.items_within format _ _
    · rw [reached]
      exact Tokenizer.relocates_within format _ _
  · intro first second accepted
    have faultless := firstFault?_eq_none_iff.mpr accepted
    obtain ⟨entries, cut⟩ :=
      wellFormed_iff_consistsOf.mp (wellFormed_iff_faultless.mpr faultless)
    have count : (Tokenizer.ofString first).items.length =
        entries.length := by
      rw [cut.items_eq, List.length_map, List.length_map]
    rw [count]
    refine ⟨Tokenizer.items_append cut second, ?_, ?_⟩
    · intro calls early
      have alone := Tokenizer.position_afterCalls_append cut "" early
      rw [String.append_empty] at alone
      rw [alone]
      exact Tokenizer.position_afterCalls_append cut second early
    · rw [Tokenizer.afterCalls_append cut second]
      exact Tokenizer.relocates_within _ _ _
  · intro first second firstLayout secondLayout firstParsed secondParsed
      small
    have parsed := Layout.parse_append firstParsed secondParsed small
    exact ⟨_, parsed, Array.toList_append, rfl,
      Layout.items_of_parse firstParsed, Layout.items_of_parse secondParsed,
      Layout.items_of_parse parsed, formatLength_of_parse_ok firstParsed,
      formatLength_of_parse_ok secondParsed, formatLength_of_parse_ok parsed⟩

/-- A format is taken up again behind its second entry, at its third byte, and
another one read behind it is refused at a letter that takes two bytes. -/
theorem tokenizing_resumes_before_accented_letter :
    Tokenizer.Accepts "2si3é" 2 ∧
      (∃ front rest, "2si3é" = front ++ rest ∧ front.utf8ByteSize = 3 ∧
        Tokenizer.Relocates 3 (Tokenizer.ofString rest)
          (Tokenizer.afterCalls 2 (Tokenizer.ofString "2si3é"))) ∧
      (Tokenizer.afterCalls 2 (Tokenizer.ofString ("2si" ++ "3é"))).next.1 =
        some (.error (.malformedFormat 4 (.unknownTypeCode 'é'))) ∧
      (Tokenizer.ofString ("2si" ++ "3b")).items =
        [.ok ⟨2, .short⟩, .ok ⟨1, .int⟩, .ok ⟨3, .byte⟩] ∧
      formatLength ("2si" ++ "3b") = .ok 11 := by
  obtain ⟨resumes, composes, joins⟩ := tokenizing_resumes_anywhere
  have accepts : Tokenizer.Accepts "2si3é" 2 := by
    intro earlier early
    match earlier, early with
    | 0, _ => exact ⟨⟨2, .short⟩, rfl⟩
    | 1, _ => exact ⟨⟨1, .int⟩, rfl⟩
  have accepted : ∀ fault, .error fault ∉ (Tokenizer.ofString "2si").items :=
    firstFault?_eq_none_iff.mp (by decide +kernel)
  have count : (Tokenizer.ofString "2si").items.length = 2 := by
    decide +kernel
  have firstParsed :
      Layout.parse "2si" = .ok ⟨#[⟨2, .short⟩, ⟨1, .int⟩], 8⟩ :=
    Layout.parse_eq_ok_iff.mpr (by decide +kernel)
  have secondParsed : Layout.parse "3b" = .ok ⟨#[⟨3, .byte⟩], 3⟩ :=
    Layout.parse_eq_ok_iff.mpr (by decide +kernel)
  refine ⟨accepts, ?_, ?_, ?_⟩
  · obtain ⟨front, rest, split, place, _, relocates⟩ :=
      resumes "2si3é" 2 accepts
    have three : 3 = front.utf8ByteSize := place
    rw [← three] at relocates
    exact ⟨front, rest, split, three.symm, relocates⟩
  · obtain ⟨_, _, relocates⟩ := composes "2si" "3é" accepted
    rw [count] at relocates
    exact relocates.yields 0
  · obtain ⟨_, _, tokens, _, _, _, yielded, _, _, total⟩ :=
      joins "2si" "3b" _ _ firstParsed secondParsed (by decide)
    rw [tokens] at yielded
    exact ⟨yielded, total⟩

end WireOrder
