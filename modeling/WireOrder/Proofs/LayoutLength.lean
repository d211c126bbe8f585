import WireOrder.Proofs.LayoutGrammar
import WireOrder.Proofs.TakenValues

/-!
# The length of a format

The length of a format is computed in two ways, on the way to its layout and
without keeping any token.  Both come to the exact sum of the lengths of the
tokens, or to the same fault.  A single token is never the reason, because its
count is in range; only the sum can be too large for a size.
-/

namespace WireOrder

theorem formatLength_eq (format : String) :
    formatLength format = (Layout.parse format).map Layout.byteLength :=
  congrArg Traced.value (formatLengthTraced_eq format)

theorem formatLength_of_parse_error {format : String} {fault : Fault}
    (refused : Layout.parse format = .error fault) :
    formatLength format = .error fault := by
  rw [formatLength_eq, refused]
  rfl

theorem formatLength_of_parse_ok {format : String} {layout : Layout}
    (parsed : Layout.parse format = .ok layout) :
    formatLength format = .ok layout.byteLength := by
  rw [formatLength_eq, parsed]
  rfl

theorem exists_parse_of_formatLength_ok {format : String} {length : Nat}
    (measured : formatLength format = .ok length) :
    ∃ layout, Layout.parse format = .ok layout ∧
      layout.byteLength = length := by
  cases outcome : Layout.parse format with
  | error fault =>
      rw [formatLength_of_parse_error outcome] at measured
      cases measured
  | ok layout =>
      rw [formatLength_of_parse_ok outcome] at measured
      exact ⟨layout, rfl, Except.ok.inj measured⟩

theorem Tokenizer.count_inRange_of_yielded {format : String} {token : Token}
    (yielded : .ok token ∈ (ofString format).items) :
    0 < token.count ∧ token.count < countLimit := by
  have fromEntries : ∀ entries : List Entry,
      (∀ entry ∈ entries, entry.Valid) →
      .ok token ∈ (entries.map Entry.token).map (Except.ok : Token → Item) →
      0 < token.count ∧ token.count < countLimit := by
    intro entries valid member
    obtain ⟨other, otherMember, same⟩ := List.mem_map.mp member
    cases same
    exact count_inRange_of_valid valid _ otherMember
  by_cases wellFormed : WellFormed format
  · obtain ⟨entries, cut⟩ := wellFormed_iff_consistsOf.mp wellFormed
    rw [cut.items_eq] at yielded
    exact fromEntries entries cut.valid yielded
  · obtain ⟨dissection⟩ := Dissection.nonempty format
    rw [dissection.items_eq wellFormed] at yielded
    rcases List.mem_append.mp yielded with early | last
    · exact fromEntries _ dissection.valid early
    · cases List.mem_singleton.mp last

namespace Layout

variable {format : String}

theorem parse_of_firstFault? {fault : Fault}
    (small : lengthOf (leading (Tokenizer.ofString format).items) <
      sizeLimit)
    (faulted : firstFault? (Tokenizer.ofString format).items =
      some fault) :
    parse format = .error fault := by
  rw [parse_of_lt small, faulted]

theorem exists_malformation_of_parse_error {fault : Fault}
    (refused : parse format = .error fault) :
    ∃ position malformation,
      fault = .malformedFormat position malformation := by
  by_cases small :
      lengthOf (leading (Tokenizer.ofString format).items) < sizeLimit
  · have blames := blamesFormat_of_firstFault?
      (firstFault?_of_parse_error small refused)
    cases fault with
    | malformedFormat position malformation =>
        exact ⟨position, malformation, rfl⟩
    | bufferTooShort offset needed available => cases blames
  · obtain ⟨position, overflowed⟩ :=
      parse_of_overflow (Nat.le_of_not_lt small)
    cases refused.symm.trans overflowed
    exact ⟨position, .countOverflow, rfl⟩

end Layout

/-- Computing the length of a format and reading its layout end alike: with
the same malformation at the same position, or with the exact length of the
tokens that the tokenizer yields, each of which stands for at least one field.
The length of a token that is yielded is always a size, and as long as the
lengths before the first fault add up to a size it is that fault which both
report. -/
theorem length_computations_agree (format : String) :
    ((∃ position malformation,
        formatLength format =
            .error (.malformedFormat position malformation) ∧
          Layout.parse format =
            .error (.malformedFormat position malformation)) ∨
      ∃ layout, formatLength format = .ok layout.byteLength ∧
        Layout.parse format = .ok layout ∧
        layout.byteLength = lengthOf layout.tokens.toList ∧
        (Tokenizer.ofString format).items = layout.tokens.toList.map .ok ∧
        ∀ token ∈ layout.tokens.toList, 1 ≤ token.count) ∧
    (∀ token, .ok token ∈ (Tokenizer.ofString format).items →
      token.boundedLength? = some token.length) ∧
    ∀ fault,
      firstFault? (Tokenizer.ofString format).items = some fault →
      lengthOf (leading (Tokenizer.ofString format).items) < sizeLimit →
      formatLength format = .error fault ∧
        Layout.parse format = .error fault := by
  refine ⟨?_, ?_, ?_⟩
  · cases outcome : Layout.parse format with
    | error fault =>
        left
        obtain ⟨position, malformation, rfl⟩ :=
          Layout.exists_malformation_of_parse_error outcome
        exact ⟨position, malformation,
          formatLength_of_parse_error outcome, rfl⟩
    | ok layout =>
        right
        obtain ⟨_, _, _, lengthEquality⟩ := Layout.parse_eq_ok_iff.mp outcome
        refine ⟨layout, formatLength_of_parse_ok outcome, rfl,
          lengthEquality, Layout.items_of_parse outcome, ?_⟩
        intro token member
        exact (Layout.count_inRange_of_parse outcome token member).1
  · intro token yielded
    exact Token.boundedLength?_of_count_lt
      (Tokenizer.count_inRange_of_yielded yielded).2
  · intro fault faulted small
    have refused := Layout.parse_of_firstFault? small faulted
    exact ⟨formatLength_of_parse_error refused, refused⟩

/-- The largest count there is has a length, and a zero count behind it is
what both computations report. -/
theorem length_computations_agree_behind_largest_count :
    (∃ token, .ok token ∈ (Tokenizer.ofString "4294967295l0b").items ∧
        token.boundedLength? = some 34359738360) ∧
      formatLength "4294967295l0b" =
        .error (.malformedFormat 11 .zeroCount) ∧
      Layout.parse "4294967295l0b" =
        .error (.malformedFormat 11 .zeroCount) := by
  obtain ⟨_, bounded, reported⟩ := length_computations_agree "4294967295l0b"
  have faulted : firstFault? (Tokenizer.ofString "4294967295l0b").items =
      some (.malformedFormat 11 .zeroCount) := by decide +kernel
  have yielded : .ok ⟨4294967295, .long⟩ ∈
      (Tokenizer.ofString "4294967295l0b").items := by
    rw [Tokenizer.items_of_next_some rfl]
    exact List.mem_cons_self
  exact ⟨⟨_, yielded, bounded _ yielded⟩,
    reported _ faulted (by decide +kernel)⟩

end WireOrder
