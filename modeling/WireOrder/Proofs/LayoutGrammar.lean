import WireOrder.Conversion
import WireOrder.Proofs.FormatReading
import WireOrder.Proofs.LayoutParsing

/-!
# Layouts and the formats they are read from

A format has a layout exactly if it is well formed and its length is in range;
the tokens of the layout are then what the entries of the format stand for.
The text of a layout is again such a format, with the canonical entries of the
same tokens, so a layout is read back from its text, and a conversion cannot
tell the text from the format.
-/

namespace WireOrder

namespace Layout

variable {format : String} {layout : Layout}

theorem parse_eq_ok_iff_consistsOf :
    parse format = .ok layout ↔
      ∃ entries, ConsistsOf format entries ∧
        layout.tokens.toList = entries.map Entry.token ∧
        layout.byteLength = lengthOf (entries.map Entry.token) ∧
        layout.byteLength < sizeLimit := by
  rw [parse_eq_ok_iff, ← wellFormed_iff_faultless, wellFormed_iff_consistsOf]
  constructor
  · intro contents
    obtain ⟨⟨entries, cut⟩, small, tokensEquality, lengthEquality⟩ := contents
    rw [cut.leading_items] at tokensEquality
    rw [tokensEquality] at lengthEquality
    exact ⟨entries, cut, tokensEquality, lengthEquality, small⟩
  · intro contents
    obtain ⟨entries, cut, tokensEquality, lengthEquality, small⟩ := contents
    rw [← tokensEquality] at lengthEquality
    rw [cut.leading_items]
    exact ⟨⟨entries, cut⟩, small, tokensEquality, lengthEquality⟩

theorem items_of_parse (parsed : parse format = .ok layout) :
    (Tokenizer.ofString format).items = layout.tokens.toList.map .ok := by
  obtain ⟨entries, cut, tokensEquality, _⟩ :=
    parse_eq_ok_iff_consistsOf.mp parsed
  rw [cut.items_eq, tokensEquality]

theorem count_inRange_of_parse (parsed : parse format = .ok layout) :
    ∀ token ∈ layout.tokens.toList,
      0 < token.count ∧ token.count < countLimit := by
  obtain ⟨entries, cut, tokensEquality, _⟩ :=
    parse_eq_ok_iff_consistsOf.mp parsed
  rw [tokensEquality]
  exact count_inRange_of_valid cut.valid

end Layout

/-- A format is read as a layout exactly if it is a concatenation of valid
entries whose exact length in bytes is a size.  There is at most one way to
see it as such a concatenation, and the layout has the tokens of the entries,
in order, and their exact length. -/
theorem parse_ok_iff_valid_entries (format : String) :
    ((∃ layout, Layout.parse format = .ok layout) ↔
        ∃ entries, ConsistsOf format entries ∧
          lengthOf (entries.map Entry.token) < sizeLimit) ∧
      (∀ first second, ConsistsOf format first →
        ConsistsOf format second → first = second) ∧
      ∀ layout entries, Layout.parse format = .ok layout →
        ConsistsOf format entries →
        layout.tokens.toList = entries.map Entry.token ∧
          layout.byteLength = lengthOf (entries.map Entry.token) := by
  refine ⟨⟨?_, ?_⟩, ?_, ?_⟩
  · intro accepted
    obtain ⟨layout, parsed⟩ := accepted
    obtain ⟨entries, cut, _, lengthEquality, small⟩ :=
      Layout.parse_eq_ok_iff_consistsOf.mp parsed
    rw [lengthEquality] at small
    exact ⟨entries, cut, small⟩
  · intro description
    obtain ⟨entries, cut, small⟩ := description
    exact ⟨⟨(entries.map Entry.token).toArray, _⟩,
      Layout.parse_eq_ok_iff_consistsOf.mpr
        ⟨entries, cut, rfl, rfl, small⟩⟩
  · intro first second firstCut secondCut
    exact firstCut.unique secondCut
  · intro layout entries parsed cut
    obtain ⟨others, othersCut, tokensEquality, lengthEquality, _⟩ :=
      Layout.parse_eq_ok_iff_consistsOf.mp parsed
    rw [cut.unique othersCut]
    exact ⟨tokensEquality, lengthEquality⟩

/-- A count with a leading zero and a count that is left out. -/
theorem parse_ok_of_leading_zero :
    ConsistsOf "02sb" [⟨['0', '2'], .short⟩, ⟨[], .byte⟩] ∧
      (∀ entries, ConsistsOf "02sb" entries →
        entries = [⟨['0', '2'], .short⟩, ⟨[], .byte⟩]) ∧
      ∃ layout, Layout.parse "02sb" = .ok layout ∧
        layout.tokens.toList = [⟨2, .short⟩, ⟨1, .byte⟩] ∧
        layout.byteLength = 5 := by
  have cut : ConsistsOf "02sb" [⟨['0', '2'], .short⟩, ⟨[], .byte⟩] :=
    ⟨by decide +kernel, by decide +kernel⟩
  obtain ⟨acceptance, uniqueness, contents⟩ :=
    parse_ok_iff_valid_entries "02sb"
  obtain ⟨layout, parsed⟩ := acceptance.mpr ⟨_, cut, by decide +kernel⟩
  obtain ⟨tokensEquality, lengthEquality⟩ := contents layout _ parsed cut
  refine ⟨cut, ?_, layout, parsed, ?_, ?_⟩
  · intro entries other
    exact uniqueness _ _ other cut
  · exact tokensEquality.trans (by decide +kernel)
  · exact lengthEquality.trans (by decide +kernel)

namespace Entry

theorem valid_ofToken {token : Token} (positive : 0 < token.count)
    (small : token.count < countLimit) : (ofToken token).Valid := by
  have countEquality : (ofToken token).count = token.count :=
    congrArg Token.count (token_ofToken token)
  refine ⟨?_, ?_⟩
  · intro digit member
    exact Nat.isDigit_of_mem_toDigits (by decide) (by decide) member
  · rw [countEquality]
    exact ⟨positive, small⟩

theorem map_token_ofToken (tokens : List Token) :
    (tokens.map ofToken).map token = tokens := by
  rw [List.map_map]
  exact List.map_id'' token_ofToken tokens

end Entry

theorem formatText_ofToken (tokens : List Token) :
    formatText (tokens.map Entry.ofToken) =
      String.join (tokens.map Token.text) := by
  apply String.ext
  rw [toList_formatText, String.toList_join, List.flatMap_map,
    List.flatMap_map]
  congr 1
  funext token
  rw [← Entry.text_ofToken, String.toList_ofList]

namespace Layout

variable {format : String} {layout : Layout}

theorem consistsOf_text (parsed : parse format = .ok layout) :
    ConsistsOf layout.text (layout.tokens.toList.map Entry.ofToken) := by
  constructor
  · intro entry member
    obtain ⟨token, tokenMember, rfl⟩ := List.mem_map.mp member
    obtain ⟨positive, small⟩ :=
      count_inRange_of_parse parsed token tokenMember
    exact Entry.valid_ofToken positive small
  · exact (formatText_ofToken _).symm

theorem parse_text (parsed : parse format = .ok layout) :
    parse layout.text = .ok layout := by
  obtain ⟨entries, _, tokensEquality, lengthEquality, small⟩ :=
    parse_eq_ok_iff_consistsOf.mp parsed
  rw [← tokensEquality] at lengthEquality
  apply parse_eq_ok_iff_consistsOf.mpr
  refine ⟨_, consistsOf_text parsed, ?_, ?_, small⟩
  · rw [Entry.map_token_ofToken]
  · rw [Entry.map_token_ofToken, lengthEquality]

theorem items_text (parsed : parse format = .ok layout) :
    (Tokenizer.ofString layout.text).items =
      (Tokenizer.ofString format).items := by
  rw [items_of_parse (parse_text parsed), items_of_parse parsed]

end Layout

/-- A layout is read back from its text, and the text can take the place of
the format that the layout was read from: every conversion ends in the same
way and leaves the same bytes. -/
theorem text_of_parse_stands_for_format (format : String) (layout : Layout)
    (parsed : Layout.parse format = .ok layout) :
    Layout.parse layout.text = .ok layout ∧
      ∀ direction buffer,
        convert direction layout.text buffer =
          convert direction format buffer := by
  constructor
  · exact Layout.parse_text parsed
  · intro direction buffer
    rw [convert_eq_convertItems, convert_eq_convertItems,
      Layout.items_text parsed]

/-- The count that was left out is written in the text, under which a short
buffer is refused as under the format. -/
theorem text_of_parse_stands_for_format_with_omitted_count :
    Layout.parse "4bi" = .ok ⟨#[⟨4, .byte⟩, ⟨1, .int⟩], 8⟩ ∧
      Layout.parse "4b1i" = .ok ⟨#[⟨4, .byte⟩, ⟨1, .int⟩], 8⟩ ∧
      convert .hostToNetwork "4b1i" [1, 2, 3, 4, 5] =
        convert .hostToNetwork "4bi" [1, 2, 3, 4, 5] := by
  have parsed :
      Layout.parse "4bi" = .ok ⟨#[⟨4, .byte⟩, ⟨1, .int⟩], 8⟩ :=
    Layout.parse_eq_ok_iff.mpr (by decide +kernel)
  have written :
      Layout.text ⟨#[⟨4, .byte⟩, ⟨1, .int⟩], 8⟩ = "4b1i" := by
    decide +kernel
  obtain ⟨reread, interchangeable⟩ :=
    text_of_parse_stands_for_format "4bi" _ parsed
  rw [written] at reread interchangeable
  exact ⟨parsed, reread, interchangeable _ _⟩

end WireOrder
