import WireOrder.Proofs.ConversionOutcome
import WireOrder.Proofs.FormatReading
import WireOrder.Proofs.TakenValues
import WireOrder.Record
import WireOrder.Session

/-!
# What the reports tell

A token is reported when it is taken up, so the reports of an operation tell
how far it has come: up to the malformed entry, up to the token that does not
fit, or through the whole format.  A conversion under a format text also
reports the fault it ends with.  Reading a format reports no fault, and a
conversion through a layout reports nothing at all.
-/

namespace WireOrder

theorem exists_overrunning_token {length : Nat} {tokens : List Token}
    (short : length < lengthOf tokens) :
    ∃ before token after, tokens = before ++ token :: after ∧
      lengthOf before ≤ length ∧ length < lengthOf before + token.length := by
  induction tokens generalizing length with
  | nil => exact absurd short (Nat.not_lt_zero length)
  | cons token tokens ih =>
      simp only [lengthOf] at short
      by_cases first : token.length ≤ length
      · have laterShort : length - token.length < lengthOf tokens := by omega
        obtain ⟨before, last, after, rfl, room, overrun⟩ := ih laterShort
        refine ⟨token :: before, last, after, rfl, ?_, ?_⟩
        · simp only [lengthOf]
          omega
        · simp only [lengthOf]
          omega
      · refine ⟨[], token, tokens, rfl, Nat.zero_le length, ?_⟩
        simp only [lengthOf]
        omega

section Walk

variable {direction : Direction} {items : List Item} {buffer : Bytes}
  {before after : List Token} {token : Token}

theorem convertItems_map_ok_fault_eq_none_iff {tokens : List Token} :
    (convertItems direction (tokens.map .ok) buffer).fault = none ↔
      lengthOf tokens ≤ buffer.length := by
  rw [convertItems_fault_eq_none_iff, firstFault?_map_ok, leading_map_ok]
  exact and_iff_right rfl

theorem taken_follow_of_fits
    (fits : lengthOf (leading items) ≤ buffer.length) :
    ((Walk.start buffer).follow direction items).taken = leading items := by
  apply Intake.taken_of_unrefused
  exact convertItems_map_ok_fault_eq_none_iff.mpr fits

theorem taken_follow_of_overrun
    (split : leading items = before ++ token :: after)
    (room : lengthOf before ≤ buffer.length)
    (short : buffer.length < lengthOf before + token.length) :
    ((Walk.start buffer).follow direction items).taken =
      before ++ [token] := by
  apply Intake.taken_of_refused split
  · exact convertItems_map_ok_fault_eq_none_iff.mpr room
  · intro unrefused
    have fits := convertItems_map_ok_fault_eq_none_iff.mp unrefused
    rw [lengthOf_append] at fits
    simp only [lengthOf] at fits
    omega

/-- The field at which a conversion stops belongs to the token that goes
beyond the buffer. -/
theorem convertItems_fault_of_overrunning_token (direction : Direction)
    (split : leading items = before ++ token :: after)
    (room : lengthOf before ≤ buffer.length)
    (short : buffer.length < lengthOf before + token.length) :
    ∃ offset,
      (convertItems direction items buffer).fault =
          some (.bufferTooShort offset token.field.width buffer.length) ∧
        lengthOf before ≤ offset ∧
        offset + token.field.width ≤ lengthOf before + token.length := by
  have tokenWidth := widthOf_fields token
  rcases fits_or_overruns (buffer.length - lengthOf before) token.fields with
    fits | ⟨first, field, last, fieldsSplit, roomInside, shortInside⟩
  · omega
  · have sameField : field = token.field := by
      have member : field ∈ token.fields := by simp [fieldsSplit]
      exact (List.mem_replicate.mp member).2
    subst sameField
    have wholeSplit : fieldsOf (leading items) =
        (fieldsOf before ++ first) ++
          token.field :: (last ++ fieldsOf after) := by
      have tokenSplit : fieldsOf (token :: after) =
          (first ++ token.field :: last) ++ fieldsOf after := by
        rw [← fieldsSplit]
        rfl
      rw [split, fieldsOf_append, tokenSplit]
      simp only [List.append_assoc, List.cons_append]
    have width : widthOf (fieldsOf before ++ first) =
        lengthOf before + widthOf first := by
      rw [widthOf_append, widthOf_fieldsOf]
    rw [fieldsSplit, widthOf_append, widthOf] at tokenWidth
    refine ⟨widthOf (fieldsOf before ++ first), ?_, ?_, ?_⟩
    · rw [convertItems_of_overrun direction wholeSplit (by omega) (by omega)]
    · omega
    · omega

end Walk

section Reading

theorem takeIn_extend_fault_eq_none_iff {readings : List Reading} :
    (takeIn Layout.extend Layout.empty
        (readings.map (Except.ok : Reading → _))).fault = none ↔
      lengthOf (readings.map Reading.token) < sizeLimit := by
  by_cases small : lengthOf (readings.map Reading.token) < sizeLimit
  · have read := Layout.takeIn_extend_of_lt Layout.empty
      (readings.map (Except.ok : Reading → _))
    rw [leading_map_ok, firstFault?_map_ok] at read
    exact iff_of_true (read (by simpa [Layout.empty] using small)).2 small
  · have refused := Layout.takeIn_extend_of_overflow Layout.empty
      (readings.map (Except.ok : Reading → _)) (by decide)
    rw [leading_map_ok] at refused
    obtain ⟨position, faulted⟩ :=
      refused (by simpa [Layout.empty] using Nat.le_of_not_lt small)
    rw [faulted]
    exact iff_of_false (by simp) small

variable {format : String} {before after : List Token} {token : Token}

theorem events_parseTraced_of_lt
    (small : lengthOf (leading (Tokenizer.ofString format).items) <
      sizeLimit) :
    (Layout.parseTraced format).events =
      (leading (Tokenizer.ofString format).items).map .tokenRead := by
  rw [Tokenizer.leading_items] at small ⊢
  have taken := Intake.taken_of_unrefused
    (takeIn_extend_fault_eq_none_iff.mpr small)
  rw [Layout.parseTraced, tokenEvents, taken, List.map_map]
  rfl

theorem events_parseTraced_of_overflow
    (split : leading (Tokenizer.ofString format).items =
      before ++ token :: after)
    (room : lengthOf before < sizeLimit)
    (large : sizeLimit ≤ lengthOf before + token.length) :
    (Layout.parseTraced format).events =
      (before ++ [token]).map .tokenRead := by
  rw [Tokenizer.leading_items] at split
  obtain ⟨earlier, laterReadings, readings, rfl, laterTokens⟩ :=
    List.map_eq_append_iff.mp split
  obtain ⟨reading, later, rfl, rfl, _⟩ := List.map_eq_cons_iff.mp laterTokens
  have taken := Intake.taken_of_refused readings
    (takeIn_extend_fault_eq_none_iff.mpr room) (by
      intro unrefused
      have small := takeIn_extend_fault_eq_none_iff.mp unrefused
      rw [List.map_append, lengthOf_append] at small
      simp only [List.map_cons, List.map_nil, lengthOf] at small
      omega)
  rw [Layout.parseTraced, tokenEvents, taken, List.map_append,
    List.map_append, List.map_map]
  rfl

theorem level_of_mem_events_parseTraced :
    ∀ event ∈ (Layout.parseTraced format).events, event.level = .trace := by
  intro event member
  obtain ⟨reading, _, rfl⟩ := List.mem_map.mp member
  rfl

end Reading

namespace Event

theorem shownUnder_append (maximum : Level) (first second : List Event) :
    shownUnder maximum (first ++ second) =
      shownUnder maximum first ++ shownUnder maximum second :=
  List.filter_append first second

theorem shownUnder_of_level {level : Level} {events : List Event}
    (maximum : Level) (sameLevel : ∀ event ∈ events, event.level = level) :
    shownUnder maximum events =
      if level.rank ≤ maximum.rank then events else [] := by
  by_cases verbose : level.rank ≤ maximum.rank
  · rw [if_pos verbose, shownUnder, List.filter_eq_self]
    intro event member
    rw [sameLevel event member]
    exact decide_eq_true verbose
  · rw [if_neg verbose, shownUnder, List.filter_eq_nil_iff]
    intro event member
    rw [sameLevel event member]
    simpa using verbose

end Event

theorem shownUnder_of_narration (maximum : Level) (direction : Direction)
    (format : String) (tokens : List Token) (fault : Option Fault) :
    let failure := (fault.map (Event.conversionFailed direction format)).toList
    Event.shownUnder maximum (tokens.map .tokenRead ++ failure) =
      match maximum with
      | .trace => tokens.map .tokenRead ++ failure
      | .debug => failure
      | .info | .warn | .error | .off => [] := by
  intro failure
  have tokenLevel : ∀ event ∈ tokens.map Event.tokenRead,
      event.level = .trace := by
    intro event member
    obtain ⟨token, _, rfl⟩ := List.mem_map.mp member
    rfl
  have failureLevel : ∀ event ∈ failure, event.level = .debug := by
    intro event member
    obtain ⟨cause, _, rfl⟩ :=
      Option.map_eq_some_iff.mp (Option.mem_toList.mp member)
    rfl
  rw [Event.shownUnder_append, Event.shownUnder_of_level maximum tokenLevel,
    Event.shownUnder_of_level maximum failureLevel]
  cases maximum <;> simp [Level.rank]

/-- The reports of a conversion of a buffer under a format text.  Its outcome
is that of a conversion that reports nothing, whatever is shown.  The tokens
are reported up to the malformed entry or up to the one that does not fit, and
after them the fault. -/
structure Narrates (direction : Direction) (format : String) (buffer : Bytes)
    (run : Traced Conversion) : Prop where
  value_eq : run.value =
    convertItems direction (Tokenizer.ofString format).items buffer
  of_success : run.value.fault = none →
    run.events = (leading (Tokenizer.ofString format).items).map .tokenRead
  of_malformed : ∀ position malformation,
    run.value.fault = some (.malformedFormat position malformation) →
    run.events =
      (leading (Tokenizer.ofString format).items).map .tokenRead ++
        [.conversionFailed direction format
          (.malformedFormat position malformation)]
  of_short : ∀ offset needed available,
    run.value.fault = some (.bufferTooShort offset needed available) →
    ∃ before token after,
      leading (Tokenizer.ofString format).items =
          before ++ token :: after ∧
        needed = token.field.width ∧ lengthOf before ≤ offset ∧
        offset + needed ≤ lengthOf before + token.length ∧
        run.events = (before ++ [token]).map .tokenRead ++
          [.conversionFailed direction format
            (.bufferTooShort offset needed available)]
  shown : ∀ maximum, Event.shownUnder maximum run.events =
    match maximum with
    | .trace => run.events
    | .debug => (run.value.fault.map
        (.conversionFailed direction format)).toList
    | .info | .warn | .error | .off => []

/-- The reports of reading a format as a whole: the tokens up to the malformed
entry, or up to the one that takes the length out of range, and no fault. -/
structure NarratesReading (format : String) (events : List Event) : Prop where
  of_lt :
    lengthOf (leading (Tokenizer.ofString format).items) < sizeLimit →
    events = (leading (Tokenizer.ofString format).items).map .tokenRead
  of_overflow : ∀ before token after,
    leading (Tokenizer.ofString format).items = before ++ token :: after →
    lengthOf before < sizeLimit →
    sizeLimit ≤ lengthOf before + token.length →
    events = (before ++ [token]).map .tokenRead
  hidden : ∀ maximum, maximum ≠ .trace → Event.shownUnder maximum events = []

theorem narrates_convertTraced (direction : Direction) (format : String)
    (buffer : Bytes) :
    Narrates direction format buffer
      (convertTraced direction format buffer) := by
  let items := (Tokenizer.ofString format).items
  let outcome := convertItems direction items buffer
  have events : (convertTraced direction format buffer).events =
      ((Walk.start buffer).follow direction items).taken.map .tokenRead ++
        (outcome.fault.map (.conversionFailed direction format)).toList := rfl
  have takenOfBlamed : ∀ fault, outcome.fault = some fault →
      fault.blamesFormat = true →
      ((Walk.start buffer).follow direction items).taken = leading items := by
    intro fault faulted blames
    apply taken_follow_of_fits
    apply Nat.le_of_not_lt
    intro short
    obtain ⟨offset, needed, refused, _⟩ :=
      convertItems_fault_of_short direction short
    cases faulted.symm.trans refused
    cases blames
  constructor
  · rfl
  · intro succeeded
    have fits := (convertItems_fault_eq_none_iff.mp succeeded).2
    have unfaulted : outcome.fault = none := succeeded
    rw [events, taken_follow_of_fits fits, unfaulted]
    exact List.append_nil _
  · intro position malformation faulted
    have refused : outcome.fault = _ := faulted
    rw [events, takenOfBlamed _ faulted rfl, refused]
    rfl
  · intro offset needed available faulted
    have refused : outcome.fault = _ := faulted
    have short : buffer.length < lengthOf (leading items) := by
      apply Nat.lt_of_not_le
      intro fits
      have ending : outcome.fault = firstFault? items :=
        congrArg Conversion.fault (convertItems_of_fits direction fits)
      have blames := blamesFormat_of_firstFault? (ending.symm.trans refused)
      cases blames
    obtain ⟨before, token, after, split, room, overrun⟩ :=
      exists_overrunning_token short
    obtain ⟨place, stopped, fromToken, toToken⟩ :=
      convertItems_fault_of_overrunning_token direction split
        room overrun
    cases refused.symm.trans stopped
    refine ⟨before, token, after, split, rfl, fromToken, toToken, ?_⟩
    rw [events, taken_follow_of_overrun split room overrun, refused]
    rfl
  · intro maximum
    exact shownUnder_of_narration maximum direction format _ _

theorem events_convertRecordsTraced (direction : Direction) (format : String)
    (records : List Bytes) :
    let succeeds (record : Bytes) :=
      (convert direction format record).fault.isNone
    (convertRecordsTraced direction format records).events =
      (records.take ((records.takeWhile succeeds).length + 1)).flatMap
        fun record => (convertTraced direction format record).events := by
  intro succeeds
  induction records with
  | nil => rfl
  | cons record records ih =>
      cases stopped : (convert direction format record).fault with
      | some fault =>
          have failed : succeeds record = false := by
            simp [succeeds, stopped]
          have valueFault :
              (convertTraced direction format record).value.fault =
                some fault := stopped
          simp [convertRecordsTraced, valueFault, failed]
      | none =>
          have passed : succeeds record = true := by
            simp [succeeds, stopped]
          have valueFault :
              (convertTraced direction format record).value.fault =
                none := stopped
          simp [convertRecordsTraced, valueFault, passed, ih]

theorem narratesReading_parseTraced (format : String) :
    NarratesReading format (Layout.parseTraced format).events := by
  constructor
  · exact events_parseTraced_of_lt
  · intro before token after
    exact events_parseTraced_of_overflow
  · intro maximum quiet
    rw [Event.shownUnder_of_level maximum level_of_mem_events_parseTraced]
    cases maximum with
    | trace => exact absurd rfl quiet
    | off | error | warn | info | debug => rfl

theorem events_perform_run (session : Session) (name : String)
    (direction : Direction) (window : Window) :
    (session.perform (.run name direction window)).events = [] := by
  simp only [Session.perform, Session.withLayout]
  cases session.layout? name with
  | none => rfl
  | some layout => rfl

theorem events_perform_copy (session : Session) (format : String)
    (direction : Direction) (window : Window) :
    (session.perform (.copy format direction window)).events =
      (convertTraced direction format
        (window.inside session.buffer)).events := by
  simp only [Session.perform, Traced.events_bind]
  cases (convertTraced direction format
      (window.inside session.buffer)).value.result with
  | ok content => simp only [Traced.events_pure, List.append_nil]
  | error fault => simp only [Traced.events_pure, List.append_nil]

/-- What the operations report.  A conversion under a format text, in place, of
a copy or of a record, reports each token it takes up and then the fault it
ends with; a sequence of records is reported on up to the first that fails.
Reading a format and computing its length report the tokens they take up and
nothing else, and a conversion through a layout reports nothing.  Tokens and
faults are worded as given here, and a maximum level hides reports without any
effect on the outcome. -/
theorem events_tell_what_was_taken_up (direction : Direction)
    (format : String) :
    (∀ buffer, Narrates direction format buffer
        (convertTraced direction format buffer)) ∧
      (∀ records,
        let succeeds (record : Bytes) :=
          (convert direction format record).fault.isNone
        (convertRecordsTraced direction format records).events =
          (records.take ((records.takeWhile succeeds).length + 1)).flatMap
            fun record => (convertTraced direction format record).events) ∧
      (∀ (session : Session) window,
        (session.perform (.copy format direction window)).events =
          (convertTraced direction format
            (window.inside session.buffer)).events) ∧
      NarratesReading format (Layout.parseTraced format).events ∧
      NarratesReading format (formatLengthTraced format).events ∧
      (∀ (session : Session) name window,
        (session.perform (.run name direction window)).events = []) ∧
      (∀ token : Token,
        (Event.tokenRead token).level = .trace ∧
          (Event.tokenRead token).message =
            "format token " ++ token.count.repr ++ " x " ++
              token.field.name) ∧
      ∀ fault : Fault,
        (Event.conversionFailed direction format fault).level = .debug ∧
          (Event.conversionFailed direction format fault).message =
            direction.label ++ " conversion of " ++ Text.quote format ++
              " failed: " ++ fault.message := by
  refine ⟨?_, ?_, ?_, ?_, ?_, ?_, ?_, ?_⟩
  · exact narrates_convertTraced direction format
  · exact events_convertRecordsTraced direction format
  · intro session window
    exact events_perform_copy session format direction window
  · exact narratesReading_parseTraced format
  · rw [formatLengthTraced_eq]
    exact narratesReading_parseTraced format
  · intro session name window
    exact events_perform_run session name direction window
  · intro token
    exact ⟨rfl, rfl⟩
  · intro fault
    exact ⟨rfl, rfl⟩

/-- The second token is reported although its second field does not fit; the
one after it and the malformed entry are not. -/
theorem events_of_overrun_inside_count :
    (convertTraced .hostToNetwork "s2ibx" [1, 2, 3, 4, 5, 6, 7]).value.fault =
        some (.bufferTooShort 6 4 7) ∧
      (convertTraced .hostToNetwork "s2ibx" [1, 2, 3, 4, 5, 6, 7]).events =
        [.tokenRead ⟨1, .short⟩, .tokenRead ⟨2, .int⟩,
          .conversionFailed .hostToNetwork "s2ibx"
            (.bufferTooShort 6 4 7)] := by
  have faulted :
      (convertTraced .hostToNetwork "s2ibx"
        [1, 2, 3, 4, 5, 6, 7]).value.fault =
          some (.bufferTooShort 6 4 7) := by decide +kernel
  have tokens :
      leading (Tokenizer.ofString "s2ibx").items =
        [⟨1, .short⟩, ⟨2, .int⟩, ⟨1, .byte⟩] := by decide +kernel
  obtain ⟨narrates, _⟩ :=
    events_tell_what_was_taken_up .hostToNetwork "s2ibx"
  obtain ⟨before, token, after, split, _, fromToken, toToken, events⟩ :=
    (narrates [1, 2, 3, 4, 5, 6, 7]).of_short 6 4 7 faulted
  rw [tokens] at split
  refine ⟨faulted, events.trans ?_⟩
  rcases before with _ | ⟨first, _ | ⟨second, later⟩⟩
  · cases split
    exact absurd toToken (by decide)
  · cases split
    rfl
  · simp only [List.cons_append, List.cons.injEq] at split
    obtain ⟨rfl, rfl, _⟩ := split
    have tooFar : 2 + (8 + lengthOf later) ≤ 6 := fromToken
    omega

end WireOrder
