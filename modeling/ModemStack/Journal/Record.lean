import ModemStack.Data.Except
import ModemStack.Journal.Codec
import ModemStack.Operations.Engine

/-!
What the journal engine writes for an event, and whether it can read it back.

The encoder writes whatever the operation engine passes on; the decoder refuses empty names and
reasons, and a time that is no natural number (`record_iff`).
-/

namespace ModemStack.Journal

open ModemStack.Data ModemStack.Domain ModemStack.Operations ModemStack.Text

variable {I O : Type}

def phaseFor : OperationJournalPhase I O → JournalPhase
  | .started _ => .started
  | .completed result => .completed (journalOutcome result)

def entryFor (event : OperationJournalEvent I O) (recordedAtMs : Nat) : JournalEntry where
  operationId := event.operationId
  physicalModemId := event.physicalModemId.text
  generation := event.generation
  recordedAtMs := recordedAtMs
  descriptor := journalDescriptorEvidence event.descriptor
  phase := phaseFor event.phase

/-! ### The clock -/

/-- What JSON tells of a finite number. -/
def jsNumberOf (value : Rat) : JsNumber :=
  if value.den = 1 then .integer value.num else .fractional

/-- A finite number with its text, a literal that is read back as the number. Which of several such
literals it is depends on the JavaScript engine. -/
structure FiniteNumber where
  value : Rat
  text : JsString
  reads : JsonMachine.Prints text (jsNumberOf value)

theorem jsNumberOf_natCast (n : Nat) : jsNumberOf n = .integer n := rfl

/-- A natural number that binary64 has. -/
def naturalNumber (n : Nat) (exact : binary64 n 1 = .integer n) : FiniteNumber where
  value := n
  text := printNat n
  reads := by
    rw [jsNumberOf_natCast, ← exact]
    exact prints_printNat n

/-- A number to be written. -/
inductive WrittenNumber where
  | natural (n : Nat)
  | finite (number : FiniteNumber)

namespace WrittenNumber

def text : WrittenNumber → JsString
  | .natural n => printNat n
  | .finite number => number.text

def value : WrittenNumber → JsNumber
  | .natural n => binary64 n 1
  | .finite number => jsNumberOf number.value

theorem reads (number : WrittenNumber) : JsonMachine.Prints number.text number.value := by
  cases number with
  | natural n => exact prints_printNat n
  | finite number => exact number.reads

end WrittenNumber

/-- What a clock returns. -/
inductive ClockValue where
  | finite (number : FiniteNumber)
  | notFinite

/-- Not a finite number, it is written as `null`. -/
def ClockValue.json : ClockValue → Json WrittenNumber
  | .finite number => .number (.finite number)
  | .notFinite => .null

/-! ### The line -/

/-- An entry as it is written, its time being what the clock has returned. -/
structure StampedEntry where
  operationId : JsString
  physicalModemId : JsString
  generation : Nat
  recordedAtMs : ClockValue
  descriptor : JournalDescriptorEvidence
  phase : JournalPhase

def stampedEntryFor (event : OperationJournalEvent I O) (now : ClockValue) : StampedEntry where
  operationId := event.operationId
  physicalModemId := event.physicalModemId.text
  generation := event.generation
  recordedAtMs := now
  descriptor := journalDescriptorEvidence event.descriptor
  phase := phaseFor event.phase

namespace StampedEntry

def members (entry : StampedEntry) : List (JsString × Json WrittenNumber) := [
  (js "schemaVersion", .number (.natural schemaVersion)),
  (js "phase", .string entry.phase.name.text),
  (js "operationId", .string entry.operationId),
  (js "physicalModemId", .string entry.physicalModemId),
  (js "generation", .number (.natural entry.generation)),
  (js "recordedAtMs", entry.recordedAtMs.json),
  (js "descriptor", (Json.object (descriptorMembers entry.descriptor)).map .natural)] ++
    Json.mapMembers .natural (outcomeMember entry.phase)

/-- One line, without its terminator. -/
def encode (entry : StampedEntry) : JsString := stringify WrittenNumber.text (.object entry.members)

/-- The entry read is the one written. -/
structure Matches (entry : StampedEntry) (read : JournalEntry) : Prop where
  operationId : read.operationId = entry.operationId
  physicalModemId : read.physicalModemId = entry.physicalModemId
  generation : read.generation = entry.generation
  recordedAtMs : ∃ number, entry.recordedAtMs = .finite number ∧ number.value = read.recordedAtMs
  descriptor : read.descriptor = entry.descriptor
  phase : read.phase = entry.phase

/-! ### Reading it back -/

variable {entry : StampedEntry}

/-- The document that the line is parsed to. -/
def source (entry : StampedEntry) : Source := [
  (js "schemaVersion", .number (.integer 1)),
  (js "phase", .string entry.phase.name.text),
  (js "operationId", .string entry.operationId),
  (js "physicalModemId", .string entry.physicalModemId),
  (js "generation", .number (binary64 entry.generation 1)),
  (js "recordedAtMs", entry.recordedAtMs.json.map WrittenNumber.value),
  (js "descriptor", readBack (.object (descriptorMembers entry.descriptor)))] ++
    sourceOf (outcomeMember entry.phase)

theorem map_members (entry : StampedEntry) :
    Json.mapMembers WrittenNumber.value entry.members = entry.source := by
  have version : binary64 schemaVersion 1 = .integer 1 := binary64_natural (by decide)
  have append : ∀ front back : List (JsString × Json WrittenNumber),
      Json.mapMembers WrittenNumber.value (front ++ back) =
        Json.mapMembers WrittenNumber.value front ++
          Json.mapMembers WrittenNumber.value back := by
    intro front back
    induction front with
    | nil => rfl
    | cons head tail ih =>
      obtain ⟨key, item⟩ := head
      rw [List.cons_append, Json.mapMembers, Json.mapMembers, ih, List.cons_append]
  rw [members, append, Json.mapMembers_mapMembers, source]
  congr 1
  simp only [Json.mapMembers, Json.map_map]
  simp only [Json.map, WrittenNumber.value, version]

theorem parse_encode (entry : StampedEntry) : parse entry.encode = some (.object entry.source) := by
  rw [encode, parse_stringify WrittenNumber.reads, Json.map, map_members]

theorem decode_encode (entry : StampedEntry) :
    decodeJournalEntry entry.encode = parseEntry (.object entry.source) := by
  have notBlank : isBlank entry.encode = false := by
    rw [encode, members, List.cons_append, stringify]
    rfl
  rw [decodeJournalEntry, notBlank, parse_encode]
  rfl

end StampedEntry

/-! ### What the decoder accepts -/

theorem requiredString_nonempty {source : Source} {field value : JsString}
    (isString : requiredString source field = .ok value) : value ≠ [] := by
  unfold requiredString at isString
  split at isString
  · split at isString
    · cases isString
    · next nonempty =>
      cases isString
      exact nonempty
  · cases isString

/-- Names that are not empty. -/
structure Named (read : JournalEntry) : Prop where
  operationId : read.operationId ≠ []
  physicalModemId : read.physicalModemId ≠ []
  descriptorId : read.descriptor.descriptorId ≠ []
  provider : read.descriptor.provider ≠ []
  outcome : ∀ outcome, read.phase = .completed outcome → outcome.Writable

theorem parseDescriptor_named {raw : Option (Json JsNumber)} {descriptor : JournalDescriptorEvidence}
    (parsed : parseDescriptor raw = .ok descriptor) :
    descriptor.descriptorId ≠ [] ∧ descriptor.provider ≠ [] := by
  simp only [parseDescriptor, except_bind_ok] at parsed
  obtain ⟨source, -, descriptorId, isId, provider, isProvider, authority, -, impact, -, profiles, -,
    firmware, -, confidence, -, isDescriptor⟩ := parsed
  cases isDescriptor
  exact ⟨requiredString_nonempty isId, requiredString_nonempty isProvider⟩

theorem parseOutcome_writable {raw : Option (Json JsNumber)} {outcome : JournalOutcome}
    (parsed : parseOutcome raw = .ok outcome) : outcome.Writable := by
  simp only [parseOutcome, except_bind_ok] at parsed
  obtain ⟨source, -, status, -, parsed⟩ := parsed
  cases status with
  | applied =>
    cases parsed
    trivial
  | refused | failed =>
    obtain ⟨reason, isReason, isOutcome⟩ := except_bind_ok.mp parsed
    cases isOutcome
    exact requiredString_nonempty isReason
  | unknownOutcome =>
    obtain ⟨reason, -, isOutcome⟩ := except_bind_ok.mp parsed
    cases isOutcome
    trivial

theorem parseEntry_named {raw : Json JsNumber} {read : JournalEntry}
    (parsed : parseEntry raw = .ok read) : Named read := by
  obtain ⟨source, -, parsed⟩ := except_bind_ok.mp parsed
  split at parsed
  · simp only [except_bind_ok] at parsed
    obtain ⟨operationId, isOperation, physicalModemId, isModem, generation, -, recordedAtMs, -,
      descriptor, isDescriptor, name, -, parsed⟩ := parsed
    obtain ⟨descriptorId, provider⟩ := parseDescriptor_named isDescriptor
    cases name with
    | started =>
      cases parsed
      exact ⟨requiredString_nonempty isOperation, requiredString_nonempty isModem, descriptorId,
        provider, nofun⟩
    | completed =>
      obtain ⟨outcome, isOutcome, isEntry⟩ := except_bind_ok.mp parsed
      cases isEntry
      refine ⟨requiredString_nonempty isOperation, requiredString_nonempty isModem, descriptorId,
        provider, ?_⟩
      rintro _ ⟨⟩
      exact parseOutcome_writable isOutcome
  · cases parsed

/-! ### The round trip -/

/-- What the decoder needs of an event and of the clock. -/
structure Recordable (event : OperationJournalEvent I O) (now : ClockValue) : Prop where
  operationId : event.operationId ≠ []
  descriptorId : event.descriptor.id ≠ []
  provider : event.descriptor.provider ≠ []
  reason : ∀ result, event.phase = .completed result → (journalOutcome result).Writable
  time : ∃ number, now = .finite number ∧ ∃ n : Nat, number.value = n

/-- The line of an event is read back as what was written, stands on one line and is read as nothing
else when it is torn. -/
structure RoundTrips (event : OperationJournalEvent I O) (now : ClockValue) : Prop where
  reads : ∃ read, decodeJournalEntry (stampedEntryFor event now).encode = .ok read ∧
    (stampedEntryFor event now).Matches read
  oneLine : (0x0A : UInt16) ∉ (stampedEntryFor event now).encode
  torn : ∀ before after, (stampedEntryFor event now).encode = before ++ after → after ≠ [] →
    ∃ failure, decodeJournalEntry before = .error failure

theorem StampedEntry.torn (entry : StampedEntry) {before after : JsString}
    (line : entry.encode = before ++ after) (some : after ≠ []) :
    ∃ failure, decodeJournalEntry before = .error failure := by
  refine (decode_torn_object ?_ line some).1
  have parses := entry.parse_encode
  rw [encode] at parses
  rw [parses]
  rfl

variable {event : OperationJournalEvent I O}

/-- All but the outcome of an event is read back as it is. -/
theorem decode_stamped {number : FiniteNumber} {n : Nat} (safe : event.generation < 2 ^ 53)
    (hasOperation : event.operationId ≠ []) (hasDescriptor : event.descriptor.id ≠ [])
    (hasProvider : event.descriptor.provider ≠ []) (isNatural : number.value = n) :
    decodeJournalEntry (stampedEntryFor event (.finite number)).encode = match event.phase with
      | .started _ => .ok (entryFor event n)
      | .completed result =>
        (parseOutcome (some (readBack (.object (outcomeMembers (journalOutcome result)))))).map
          fun outcome => { entryFor event n with phase := .completed outcome } := by
  obtain ⟨operationId, modem, generation, descriptor, phase⟩ := event
  let entry := stampedEntryFor ⟨operationId, modem, generation, descriptor, phase⟩ (.finite number)
  have isVersion : Text.member entry.source (js "schemaVersion") = some (.number (.integer 1)) := by
    cases phase <;> rfl
  have isOperation : requiredString entry.source (js "operationId") = .ok operationId :=
    requiredString_ok (by cases phase <;> rfl) hasOperation
  have isModem : requiredString entry.source (js "physicalModemId") = .ok modem.text :=
    requiredString_ok (by cases phase <;> rfl) modem.nonempty
  have isGeneration : requiredNonNegativeInteger entry.source (js "generation") =
      .ok generation := requiredNonNegativeInteger_ok safe (by cases phase <;> rfl)
  have isTime : requiredNonNegativeInteger entry.source (js "recordedAtMs") = .ok n := by
    refine requiredNonNegativeInteger_natural ?_
    have here : Text.member entry.source (js "recordedAtMs") =
      some (.number (jsNumberOf number.value)) := by cases phase <;> rfl
    rw [here, isNatural, jsNumberOf_natCast]
  have isDescriptor : parseDescriptor (Text.member entry.source (js "descriptor")) =
      .ok (journalDescriptorEvidence descriptor) := by
    have here : Text.member entry.source (js "descriptor") =
      some (readBack (.object (descriptorMembers (journalDescriptorEvidence descriptor)))) := by
        cases phase <;> rfl
    rw [here]
    exact parseDescriptor_readBack hasDescriptor hasProvider
  have isPhase : member entry.source (js "phase") [.started, .completed] PhaseName.text =
      .ok (phaseFor phase).name :=
    member_ok (by cases phase <;> rfl) (by cases phase <;> rfl)
  rw [StampedEntry.decode_encode, parseEntry_fields isVersion isOperation isModem isGeneration
    isTime isDescriptor isPhase]
  cases phase <;> rfl

theorem entryFor_matches {number : FiniteNumber} {n : Nat} (isNatural : number.value = n) :
    (stampedEntryFor event (.finite number)).Matches (entryFor event n) :=
  ⟨rfl, rfl, rfl, ⟨number, rfl, isNatural⟩, rfl, rfl⟩

theorem stamped_reads {now : ClockValue} (safe : event.generation < 2 ^ 53)
    (recordable : Recordable event now) :
    ∃ read, decodeJournalEntry (stampedEntryFor event now).encode = .ok read ∧
      (stampedEntryFor event now).Matches read := by
  obtain ⟨number, rfl, n, isNatural⟩ := recordable.time
  refine ⟨entryFor event n, ?_, entryFor_matches isNatural⟩
  rw [decode_stamped safe recordable.operationId recordable.descriptorId recordable.provider
    isNatural]
  cases isPhase : event.phase with
  | started => rfl
  | completed result =>
    simp only [parseOutcome_readBack (recordable.reason result isPhase), Except.map]
    rw [entryFor, isPhase]
    rfl

theorem recordable_of_reads {now : ClockValue} {read : JournalEntry}
    (reads : decodeJournalEntry (stampedEntryFor event now).encode = .ok read)
    (same : (stampedEntryFor event now).Matches read) : Recordable event now := by
  rw [StampedEntry.decode_encode] at reads
  have named := parseEntry_named reads
  constructor
  · have nonempty := named.operationId
    rwa [same.operationId] at nonempty
  · have nonempty := named.descriptorId
    rwa [same.descriptor] at nonempty
  · have nonempty := named.provider
    rwa [same.descriptor] at nonempty
  · intro result isCompleted
    refine named.outcome _ ?_
    rw [same.phase, stampedEntryFor, isCompleted]
    rfl
  · obtain ⟨number, isNumber, isTime⟩ := same.recordedAtMs
    exact ⟨number, isNumber, read.recordedAtMs, isTime⟩

theorem step_plain {numeral next : Numeral} {c : UInt16} (steps : numeral.step c = some next) :
    c.toNat < 0xD800 ∧ c ≠ 0x0A := by
  by_cases digit : 0x30 ≤ c.toNat ∧ c.toNat ≤ 0x39
  · refine ⟨by omega, ?_⟩
    rintro rfl
    exact absurd digit.1 (by decide)
  · have noDigit : digitValue c = none := by rw [digitValue, if_neg digit]
    have mark : c = fullStop ∨ c = 0x65 ∨ c = 0x45 ∨ c = plusSign ∨ c = minusSign := by
      unfold Numeral.step at steps
      rw [noDigit] at steps
      by_contra none
      simp only [not_or] at none
      obtain ⟨noPoint, noMark, noMark', noPlus, noMinus⟩ := none
      split at steps <;> simp_all
    rcases mark with rfl | rfl | rfl | rfl | rfl <;> decide

theorem onOneLine_literal {text : JsString} {value : JsNumber}
    (reads : JsonMachine.Prints text value) : OnOneLine text := by
  obtain ⟨c, rest, begun, numeral, rfl, starts, steps, -⟩ := reads
  have plain : OnOneLine rest := by
    clear starts
    induction rest generalizing begun with
    | nil => exact onOneLine_nil
    | cons d rest ih =>
      rw [List.foldlM_cons] at steps
      obtain ⟨next, isNext, steps⟩ := Option.bind_eq_some_iff.mp steps
      obtain ⟨low, notNewline⟩ := step_plain isNext
      exact (ih next steps).cons low notNewline
  refine plain.cons ?_ ?_
  · rcases JsonMachine.startNumeral_range starts with isMinus | range <;> omega
  · rintro rfl
    cases starts

/-- The line of an event makes the round trip exactly when the decoder's own checks pass. -/
theorem record_iff (event : OperationJournalEvent I O) (now : ClockValue)
    (safe : event.generation < 2 ^ 53) : RoundTrips event now ↔ Recordable event now := by
  constructor
  · intro roundTrips
    obtain ⟨read, reads, same⟩ := roundTrips.reads
    exact recordable_of_reads reads same
  · intro recordable
    constructor
    · exact stamped_reads safe recordable
    · exact (onOneLine_stringify (fun number => onOneLine_literal number.reads) _).2
    · intro before after line some
      exact StampedEntry.torn _ line some

/-! ### Two events -/

theorem serial_ne_nil : js "serial:1" ≠ [] := by decide

/-- A mode write has failed. -/
def modeEvent (reason : JsString) : OperationJournalEvent Unit Unit where
  operationId := js "operation-1"
  physicalModemId := ⟨js "serial:1", serial_ne_nil⟩
  generation := 0
  descriptor :=
    { id := js "radio.modes"
      supportRead := .supported
      supportWrite := .supported
      authority := .provider
      provider := js "modemmanager"
      constraints := .unconstrained
      livePreconditions := []
      availability := .available
      mutationImpact := .write
      retryClass := .never
      readback := .notRequired
      rollback := .notRequired
      journal := .required (js "durable")
      admission := .notRequired
      profiles := []
      firmware := []
      confidence := .high }
  phase := .completed (.failed reason 0)

/-- A second after the epoch. -/
def oneSecond : ClockValue := .finite (naturalNumber 1000 (binary64_natural (by decide)))

theorem roundTrips_modeEvent : RoundTrips (modeEvent (js "busy")) oneSecond := by
  refine (record_iff (modeEvent (js "busy")) oneSecond (by decide)).mpr ?_
  refine ⟨by decide, by decide, by decide, ?_, _, rfl, 1000, rfl⟩
  rintro result ⟨⟩
  exact List.cons_ne_nil _ _

/-- A failure without a reason is written, and is damage when it is read. -/
theorem roundTrips_unreasoned :
    decodeJournalEntry (stampedEntryFor (modeEvent []) oneSecond).encode =
        .error (.schemaMismatch (js "reason")) ∧ ¬ RoundTrips (modeEvent []) oneSecond := by
  have fails : decodeJournalEntry (stampedEntryFor (modeEvent []) oneSecond).encode =
      .error (.schemaMismatch (js "reason")) := by
    have isNatural : (naturalNumber 1000 (binary64_natural (by decide))).value = (1000 : Nat) := rfl
    have safe : (modeEvent []).generation < 2 ^ 53 := by decide
    rw [oneSecond, decode_stamped safe (by decide) (by decide) (by decide) isNatural]
    rfl
  refine ⟨fails, fun roundTrips => ?_⟩
  obtain ⟨read, reads, -⟩ := roundTrips.reads
  rw [fails] at reads
  cases reads

end ModemStack.Journal
