import ModemStack.Domain.Operation
import ModemStack.Text.Json
import ModemStack.Text.Utf8

/-!
Journal entries and their line codec.

An entry is one JSON object on one line. Decoding returns the entry or the
failure that names the offending field; an entry whose required strings are
non-empty and whose numbers are safe integers is read back as it was written
(`decode_encode`), and a line broken off anywhere is no entry
(`decode_torn`).
-/

namespace ModemStack.Journal

open ModemStack.Domain ModemStack.Text

def schemaVersion : Nat := 1

inductive JournalOutcome where
  | applied
  | refused (reason : JsString)
  | failed (reason : JsString)
  | unknownOutcome (reason : UnknownOutcomeReason)
deriving DecidableEq

structure JournalDescriptorEvidence where
  descriptorId : JsString
  provider : JsString
  authority : OperationAuthority
  mutationImpact : MutationImpact
  profiles : List JsString
  firmware : List JsString
  confidence : OperationConfidence
deriving DecidableEq

/-- A completed entry has an outcome; a started one has none. -/
inductive JournalPhase where
  | started
  | completed (outcome : JournalOutcome)
deriving DecidableEq

/-- Numbers are natural; the schema version is the current one. -/
structure JournalEntry where
  operationId : JsString
  physicalModemId : JsString
  generation : Nat
  recordedAtMs : Nat
  descriptor : JournalDescriptorEvidence
  phase : JournalPhase
deriving DecidableEq

def journalDescriptorEvidence {I O : Type} (descriptor : OperationDescriptor I O) :
    JournalDescriptorEvidence where
  descriptorId := descriptor.id
  provider := descriptor.provider
  authority := descriptor.authority
  mutationImpact := descriptor.mutationImpact
  profiles := descriptor.profiles
  firmware := descriptor.firmware
  confidence := descriptor.confidence

/-- A result without its value. -/
def journalOutcome {O : Type} : OperationResult O → JournalOutcome
  | .applied _ _ => .applied
  | .refused reason _ => .refused reason
  | .failed reason _ => .failed reason
  | .unknownOutcome reason _ => .unknownOutcome reason

/-! ### Names on disk -/

def authorityText : OperationAuthority → JsString
  | .provider => js "provider"
  | .controller => js "controller"
  | .hardware => js "hardware"

def impactText : MutationImpact → JsString
  | .read => js "read"
  | .write => js "write"
  | .session => js "session"
  | .disruptive => js "disruptive"
  | .recovery => js "recovery"

def confidenceText : OperationConfidence → JsString
  | .high => js "high"
  | .medium => js "medium"
  | .low => js "low"
  | .unknown => js "unknown"

def unknownReasonText : UnknownOutcomeReason → JsString
  | .staleGeneration => js "stale-generation"
  | .writeReplyTimedOut => js "write-reply-timed-out"
  | .writeReplyDropped => js "write-reply-dropped"

def authorities : List OperationAuthority := [.provider, .controller, .hardware]

def impacts : List MutationImpact := [.read, .write, .session, .disruptive, .recovery]

def confidences : List OperationConfidence := [.high, .medium, .low, .unknown]

def unknownOutcomeReasons : List UnknownOutcomeReason :=
  [.staleGeneration, .writeReplyTimedOut, .writeReplyDropped]

inductive PhaseName where
  | started
  | completed
deriving DecidableEq

def PhaseName.text : PhaseName → JsString
  | .started => js "started"
  | .completed => js "completed"

inductive StatusName where
  | applied
  | refused
  | failed
  | unknownOutcome
deriving DecidableEq

def StatusName.text : StatusName → JsString
  | .applied => js "applied"
  | .refused => js "refused"
  | .failed => js "failed"
  | .unknownOutcome => js "unknown-outcome"

def statusNames : List StatusName := [.applied, .refused, .failed, .unknownOutcome]

/-! ### Decoding -/

inductive JournalDecodeFailure where
  | empty
  | invalidJson
  | unsupportedSchemaVersion
  | schemaMismatch (field : JsString)
  | unreadable
deriving DecidableEq

abbrev Decoder (α : Type) := Except JournalDecodeFailure α

/-- The members of an object. -/
abbrev Source := List (JsString × Json JsNumber)

def record (raw : Option (Json JsNumber)) (field : JsString) : Decoder Source :=
  match raw with
  | some (.object members) => .ok members
  | _ => .error (.schemaMismatch field)

def requiredString (source : Source) (field : JsString) : Decoder JsString :=
  match Text.member source field with
  | some (.string value) => if value = [] then .error (.schemaMismatch field) else .ok value
  | _ => .error (.schemaMismatch field)

def requiredNonNegativeInteger (source : Source) (field : JsString) : Decoder Nat :=
  match Text.member source field with
  | some (.number (.integer value)) =>
    if value < 0 then .error (.schemaMismatch field) else .ok value.toNat
  | _ => .error (.schemaMismatch field)

/-- The strings of an array of strings. -/
def strings : List (Json JsNumber) → Option (List JsString)
  | [] => some []
  | .string value :: rest => (strings rest).map (value :: ·)
  | _ :: _ => none

def requiredStringArray (source : Source) (field : JsString) : Decoder (List JsString) :=
  match Text.member source field with
  | some (.array items) =>
    match strings items with
    | some values => .ok values
    | none => .error (.schemaMismatch field)
  | _ => .error (.schemaMismatch field)

/-- The one of `allowed` whose text the field holds. -/
def member {α : Type} (source : Source) (field : JsString) (allowed : List α)
    (text : α → JsString) : Decoder α :=
  match Text.member source field with
  | some (.string value) =>
    match allowed.find? fun item => text item = value with
    | some item => .ok item
    | none => .error (.schemaMismatch field)
  | _ => .error (.schemaMismatch field)

def parseDescriptor (raw : Option (Json JsNumber)) : Decoder JournalDescriptorEvidence := do
  let source ← record raw (js "descriptor")
  let descriptorId ← requiredString source (js "descriptorId")
  let provider ← requiredString source (js "provider")
  let authority ← member source (js "authority") authorities authorityText
  let mutationImpact ← member source (js "mutationImpact") impacts impactText
  let profiles ← requiredStringArray source (js "profiles")
  let firmware ← requiredStringArray source (js "firmware")
  let confidence ← member source (js "confidence") confidences confidenceText
  return { descriptorId, provider, authority, mutationImpact, profiles, firmware, confidence }

def parseOutcome (raw : Option (Json JsNumber)) : Decoder JournalOutcome := do
  let source ← record raw (js "outcome")
  match ← member source (js "status") statusNames StatusName.text with
  | .applied => return .applied
  | .refused => return .refused (← requiredString source (js "reason"))
  | .failed => return .failed (← requiredString source (js "reason"))
  | .unknownOutcome =>
    return .unknownOutcome
      (← member source (js "reason") unknownOutcomeReasons unknownReasonText)

def parseEntry (raw : Json JsNumber) : Decoder JournalEntry := do
  let source ← record (some raw) (js "entry")
  match Text.member source (js "schemaVersion") with
  | some (.number (.integer 1)) =>
    let operationId ← requiredString source (js "operationId")
    let physicalModemId ← requiredString source (js "physicalModemId")
    let generation ← requiredNonNegativeInteger source (js "generation")
    let recordedAtMs ← requiredNonNegativeInteger source (js "recordedAtMs")
    let descriptor ← parseDescriptor (Text.member source (js "descriptor"))
    match ← member source (js "phase") [.started, .completed] PhaseName.text with
    | .started =>
      return ⟨operationId, physicalModemId, generation, recordedAtMs, descriptor, .started⟩
    | .completed =>
      let outcome ← parseOutcome (Text.member source (js "outcome"))
      return ⟨operationId, physicalModemId, generation, recordedAtMs, descriptor,
        .completed outcome⟩
  | _ => .error .unsupportedSchemaVersion

/-- `line.trim().length === 0`. -/
def isBlank (line : JsString) : Bool := line.all isJsSpace

def decodeJournalEntry (line : JsString) : Decoder JournalEntry :=
  if isBlank line then .error .empty
  else match parse line with
    | none => .error .invalidJson
    | some raw => parseEntry raw

/-! ### Encoding -/

def stringsJson (values : List JsString) : Json Nat := .array (values.map .string)

def descriptorMembers (descriptor : JournalDescriptorEvidence) : List (JsString × Json Nat) := [
  (js "descriptorId", .string descriptor.descriptorId),
  (js "provider", .string descriptor.provider),
  (js "authority", .string (authorityText descriptor.authority)),
  (js "mutationImpact", .string (impactText descriptor.mutationImpact)),
  (js "profiles", stringsJson descriptor.profiles),
  (js "firmware", stringsJson descriptor.firmware),
  (js "confidence", .string (confidenceText descriptor.confidence))]

def outcomeMembers : JournalOutcome → List (JsString × Json Nat)
  | .applied => [(js "status", .string StatusName.applied.text)]
  | .refused reason =>
    [(js "status", .string StatusName.refused.text), (js "reason", .string reason)]
  | .failed reason => [(js "status", .string StatusName.failed.text), (js "reason", .string reason)]
  | .unknownOutcome reason =>
    [(js "status", .string StatusName.unknownOutcome.text),
      (js "reason", .string (unknownReasonText reason))]

def JournalPhase.name : JournalPhase → PhaseName
  | .started => .started
  | .completed _ => .completed

/-- The member a completed entry has and a started one has not. -/
def outcomeMember : JournalPhase → List (JsString × Json Nat)
  | .started => []
  | .completed outcome => [(js "outcome", .object (outcomeMembers outcome))]

def entryMembers (entry : JournalEntry) : List (JsString × Json Nat) := [
  (js "schemaVersion", .number schemaVersion),
  (js "phase", .string entry.phase.name.text),
  (js "operationId", .string entry.operationId),
  (js "physicalModemId", .string entry.physicalModemId),
  (js "generation", .number entry.generation),
  (js "recordedAtMs", .number entry.recordedAtMs),
  (js "descriptor", .object (descriptorMembers entry.descriptor))] ++ outcomeMember entry.phase

/-- One line, without its terminator. -/
def encodeJournalEntry (entry : JournalEntry) : JsString :=
  stringify printNat (.object (entryMembers entry))

/-! ### Round trip -/

/-- The decoder accepts a reason only if it is not empty. -/
def JournalOutcome.Writable : JournalOutcome → Prop
  | .refused reason | .failed reason => reason ≠ []
  | _ => True

/-- What the decoder requires of an entry besides its outcome: its strings are
non-empty, and its numbers are safe integers. -/
structure JournalEntry.Identified (entry : JournalEntry) : Prop where
  operationId : entry.operationId ≠ []
  physicalModemId : entry.physicalModemId ≠ []
  generation : entry.generation < 2 ^ 53
  recordedAtMs : entry.recordedAtMs < 2 ^ 53
  descriptorId : entry.descriptor.descriptorId ≠ []
  provider : entry.descriptor.provider ≠ []

/-- What the decoder requires of an entry. -/
structure JournalEntry.Writable (entry : JournalEntry) : Prop extends entry.Identified where
  outcome : ∀ outcome, entry.phase = .completed outcome → outcome.Writable

/-- What `JSON.parse` reads an encoded document as. -/
abbrev readBack (document : Json Nat) : Json JsNumber := document.map fun n => binary64 n 1

abbrev sourceOf (members : List (JsString × Json Nat)) : Source :=
  Json.mapMembers (fun n => binary64 n 1) members

section Fields

variable {source : Source} {field : JsString}

theorem record_object {members : List (JsString × Json Nat)} :
    record (some (readBack (.object members))) field = .ok (sourceOf members) := by
  rw [readBack, Json.map]
  rfl

theorem requiredString_ok {value : JsString}
    (here : Text.member source field = some (readBack (.string value))) (some : value ≠ []) :
    requiredString source field = .ok value := by
  rw [readBack, Json.map] at here
  simp [requiredString, here, some]

theorem requiredNonNegativeInteger_natural {value : Nat}
    (here : Text.member source field = some (.number (.integer value))) :
    requiredNonNegativeInteger source field = .ok value := by
  simp [requiredNonNegativeInteger, here]

theorem requiredNonNegativeInteger_ok {value : Nat} (safe : value < 2 ^ 53)
    (here : Text.member source field = some (readBack (.number value))) :
    requiredNonNegativeInteger source field = .ok value := by
  rw [readBack, Json.map, binary64_natural safe] at here
  exact requiredNonNegativeInteger_natural here

theorem strings_mapItems (values : List JsString) :
    strings (Json.mapItems (fun n => binary64 n 1) (values.map .string)) = some values := by
  induction values with
  | nil => rfl
  | cons value values ih =>
    rw [List.map_cons, Json.mapItems, Json.map, strings, ih]
    rfl

theorem requiredStringArray_ok {values : List JsString}
    (here : Text.member source field = some (readBack (stringsJson values))) :
    requiredStringArray source field = .ok values := by
  rw [readBack, stringsJson, Json.map] at here
  simp [requiredStringArray, here, strings_mapItems]

theorem member_ok {α : Type} {allowed : List α} {text : α → JsString} {item : α}
    (here : Text.member source field = some (readBack (.string (text item))))
    (found : (allowed.find? fun other => text other = text item) = some item) :
    member source field allowed text = .ok item := by
  rw [readBack, Json.map] at here
  simp [member, here, found]

end Fields

theorem ok_bind {α β : Type} {value : α} {f : α → Decoder β} :
    ((.ok value : Decoder α) >>= f) = f value := rfl

theorem parseDescriptor_readBack {descriptor : JournalDescriptorEvidence}
    (descriptorId : descriptor.descriptorId ≠ []) (provider : descriptor.provider ≠ []) :
    parseDescriptor (some (readBack (.object (descriptorMembers descriptor)))) =
      .ok descriptor := by
  have isDescriptorId : requiredString (sourceOf (descriptorMembers descriptor))
      (js "descriptorId") = .ok descriptor.descriptorId := requiredString_ok rfl descriptorId
  have isProvider : requiredString (sourceOf (descriptorMembers descriptor)) (js "provider") =
      .ok descriptor.provider := requiredString_ok rfl provider
  have isAuthority : member (sourceOf (descriptorMembers descriptor)) (js "authority")
      authorities authorityText = .ok descriptor.authority :=
    member_ok rfl (by cases descriptor.authority <;> rfl)
  have isImpact : member (sourceOf (descriptorMembers descriptor)) (js "mutationImpact")
      impacts impactText = .ok descriptor.mutationImpact :=
    member_ok rfl (by cases descriptor.mutationImpact <;> rfl)
  have isProfiles : requiredStringArray (sourceOf (descriptorMembers descriptor))
      (js "profiles") = .ok descriptor.profiles := requiredStringArray_ok rfl
  have isFirmware : requiredStringArray (sourceOf (descriptorMembers descriptor))
      (js "firmware") = .ok descriptor.firmware := requiredStringArray_ok rfl
  have isConfidence : member (sourceOf (descriptorMembers descriptor)) (js "confidence")
      confidences confidenceText = .ok descriptor.confidence :=
    member_ok rfl (by cases descriptor.confidence <;> rfl)
  simp only [parseDescriptor, record_object, ok_bind, isDescriptorId, isProvider, isAuthority,
    isImpact, isProfiles, isFirmware, isConfidence]
  rfl

theorem parseOutcome_readBack {outcome : JournalOutcome} (writable : outcome.Writable) :
    parseOutcome (some (readBack (.object (outcomeMembers outcome)))) = .ok outcome := by
  have isStatus : ∀ status : StatusName, Text.member (sourceOf (outcomeMembers outcome))
      (js "status") = some (readBack (.string status.text)) →
      member (sourceOf (outcomeMembers outcome)) (js "status") statusNames StatusName.text =
        .ok status :=
    fun status here => member_ok here (by cases status <;> rfl)
  simp only [parseOutcome, record_object, ok_bind]
  cases outcome with
  | applied =>
    rw [isStatus .applied rfl, ok_bind]
    rfl
  | refused reason =>
    have isReason : requiredString (sourceOf (outcomeMembers (.refused reason)))
        (js "reason") = .ok reason := requiredString_ok rfl writable
    rw [isStatus .refused rfl, ok_bind]
    simp only [isReason, ok_bind]
    rfl
  | failed reason =>
    have isReason : requiredString (sourceOf (outcomeMembers (.failed reason)))
        (js "reason") = .ok reason := requiredString_ok rfl writable
    rw [isStatus .failed rfl, ok_bind]
    simp only [isReason, ok_bind]
    rfl
  | unknownOutcome reason =>
    have isReason : member (sourceOf (outcomeMembers (.unknownOutcome reason))) (js "reason")
        unknownOutcomeReasons unknownReasonText = .ok reason :=
      member_ok rfl (by cases reason <;> rfl)
    rw [isStatus .unknownOutcome rfl, ok_bind]
    simp only [isReason, ok_bind]
    rfl

/-- An outcome is read back as it is, or refused. -/
theorem parseOutcome_readBack_cases (outcome : JournalOutcome) :
    parseOutcome (some (readBack (.object (outcomeMembers outcome)))) = .ok outcome ∨
      ∃ failure, parseOutcome (some (readBack (.object (outcomeMembers outcome)))) =
        .error failure := by
  by_cases writable : outcome.Writable
  · exact .inl (parseOutcome_readBack writable)
  · cases outcome with
    | applied => exact absurd trivial writable
    | refused reason | failed reason =>
      obtain rfl : reason = [] := not_not.mp writable
      exact .inr ⟨.schemaMismatch (js "reason"), rfl⟩
    | unknownOutcome => exact absurd trivial writable

/-- An entry whose fields can be read is read. -/
theorem parseEntry_fields {source : Source} {operationId physicalModemId : JsString}
    {generation recordedAtMs : Nat} {descriptor : JournalDescriptorEvidence} {name : PhaseName}
    (isVersion : Text.member source (js "schemaVersion") = some (.number (.integer 1)))
    (isOperation : requiredString source (js "operationId") = .ok operationId)
    (isModem : requiredString source (js "physicalModemId") = .ok physicalModemId)
    (isGeneration : requiredNonNegativeInteger source (js "generation") = .ok generation)
    (isTime : requiredNonNegativeInteger source (js "recordedAtMs") = .ok recordedAtMs)
    (isDescriptor : parseDescriptor (Text.member source (js "descriptor")) = .ok descriptor)
    (isPhase : member source (js "phase") [.started, .completed] PhaseName.text = .ok name) :
    parseEntry (.object source) = match name with
      | .started =>
        .ok ⟨operationId, physicalModemId, generation, recordedAtMs, descriptor, .started⟩
      | .completed => (parseOutcome (Text.member source (js "outcome"))).map fun outcome =>
        ⟨operationId, physicalModemId, generation, recordedAtMs, descriptor,
          .completed outcome⟩ := by
  have isObject : record (some (.object source)) (js "entry") = .ok source := rfl
  rw [parseEntry, isObject, ok_bind]
  simp only [isVersion, isOperation, isModem, isGeneration, isTime, isDescriptor, isPhase,
    ok_bind]
  cases name with
  | started => rfl
  | completed => cases parseOutcome (Text.member source (js "outcome")) <;> rfl

variable {entry : JournalEntry}

/-- All but the outcome is read back as it is. -/
theorem parseEntry_readBack (identified : entry.Identified) :
    parseEntry (readBack (.object (entryMembers entry))) = match entry.phase with
      | .started => .ok entry
      | .completed outcome =>
        (parseOutcome (some (readBack (.object (outcomeMembers outcome))))).map
          fun outcome => { entry with phase := .completed outcome } := by
  obtain ⟨operationId, physicalModemId, generation, recordedAtMs, descriptor, phase⟩ := entry
  obtain ⟨hasOperation, hasModem, safeGeneration, safeTime, hasDescriptor, hasProvider⟩ :=
    identified
  simp only at hasOperation hasModem safeGeneration safeTime hasDescriptor hasProvider
  let source := sourceOf (entryMembers
    ⟨operationId, physicalModemId, generation, recordedAtMs, descriptor, phase⟩)
  -- The last of several members of one name counts, so the outcome is looked at first.
  have isVersion : Text.member source (js "schemaVersion") = some (.number (.integer 1)) := by
    have here : Text.member source (js "schemaVersion") =
      some (readBack (.number schemaVersion)) := by cases phase <;> rfl
    rw [here, readBack, Json.map, binary64_natural (by decide)]
    rfl
  have isOperation : requiredString source (js "operationId") = .ok operationId :=
    requiredString_ok (by cases phase <;> rfl) hasOperation
  have isModem : requiredString source (js "physicalModemId") = .ok physicalModemId :=
    requiredString_ok (by cases phase <;> rfl) hasModem
  have isGeneration : requiredNonNegativeInteger source (js "generation") = .ok generation :=
    requiredNonNegativeInteger_ok safeGeneration (by cases phase <;> rfl)
  have isTime : requiredNonNegativeInteger source (js "recordedAtMs") = .ok recordedAtMs :=
    requiredNonNegativeInteger_ok safeTime (by cases phase <;> rfl)
  have isDescriptor : parseDescriptor (Text.member source (js "descriptor")) =
      .ok descriptor := by
    have here : Text.member source (js "descriptor") =
      some (readBack (.object (descriptorMembers descriptor))) := by cases phase <;> rfl
    rw [here]
    exact parseDescriptor_readBack hasDescriptor hasProvider
  have isPhase : member source (js "phase") [.started, .completed] PhaseName.text =
      .ok phase.name :=
    member_ok (by cases phase <;> rfl) (by cases phase <;> rfl)
  rw [readBack, Json.map, parseEntry_fields isVersion isOperation isModem isGeneration isTime
    isDescriptor isPhase]
  cases phase <;> rfl

/-- The line of an entry is the text of an object, whatever the entry. -/
theorem parse_encode (entry : JournalEntry) :
    parse (encodeJournalEntry entry) = some (readBack (.object (entryMembers entry))) :=
  parse_stringify prints_printNat _

theorem decodeJournalEntry_encode (entry : JournalEntry) :
    decodeJournalEntry (encodeJournalEntry entry) =
      parseEntry (readBack (.object (entryMembers entry))) := by
  have notBlank : isBlank (encodeJournalEntry entry) = false := by
    rw [encodeJournalEntry, entryMembers, List.cons_append, stringify]
    rfl
  rw [decodeJournalEntry, notBlank, parse_encode]
  rfl

/-- An entry that can be written is read back as it was written. -/
theorem decode_encode (writable : entry.Writable) :
    decodeJournalEntry (encodeJournalEntry entry) = .ok entry := by
  rw [decodeJournalEntry_encode, parseEntry_readBack writable.toIdentified]
  cases isPhase : entry.phase with
  | started => rfl
  | completed outcome =>
    simp only [parseOutcome_readBack (writable.outcome outcome isPhase), Except.map]
    rw [← isPhase]

/-- Whatever its outcome, an entry is read back as it was written or not at all. -/
theorem decode_encode_cases (identified : entry.Identified) :
    decodeJournalEntry (encodeJournalEntry entry) = .ok entry ∨
      ∃ failure, decodeJournalEntry (encodeJournalEntry entry) = .error failure := by
  rw [decodeJournalEntry_encode, parseEntry_readBack identified]
  cases isPhase : entry.phase with
  | started => exact .inl rfl
  | completed outcome =>
    rcases parseOutcome_readBack_cases outcome with reads | ⟨failure, fails⟩
    · left
      simp only [reads, Except.map]
      rw [← isPhase]
    · right
      simp only [fails, Except.map]
      exact ⟨failure, rfl⟩

/-- The line of an entry stands on one line and ends in a brace. -/
theorem onOneLine_encode (entry : JournalEntry) : OnOneLine (encodeJournalEntry entry) :=
  onOneLine_stringify onOneLine_printNat _

theorem decodeJournalEntry_parseless {line : JsString} (fails : parse line = none) :
    ∃ failure, decodeJournalEntry line = .error failure := by
  rw [decodeJournalEntry, fails]
  split
  · exact ⟨.empty, rfl⟩
  · exact ⟨.invalidJson, rfl⟩

/-- The text of an object broken off anywhere is no entry, with a replacement character after it or
without. -/
theorem decode_torn_object {ν : Type} {print : ν → JsString}
    {members : List (JsString × Json ν)} {before after : JsString}
    (parses : (parse (stringify print (.object members))).isSome)
    (line : stringify print (.object members) = before ++ after) (some : after ≠ []) :
    (∃ failure, decodeJournalEntry before = .error failure) ∧
      ∃ failure, decodeJournalEntry (before ++ [replacement]) = .error failure := by
  have brace : closeBrace ∈ after := by
    obtain ⟨front, isText⟩ : ∃ front, stringify print (.object members) = front ++ [closeBrace] :=
      stringify_object_last members
    have last : (before ++ after).getLast (by simp [some]) = closeBrace := by
      simp [← line, isText]
    rw [List.getLast_append_of_ne_nil _ some] at last
    exact last ▸ List.getLast_mem some
  rw [line] at parses
  obtain ⟨fails, failsReplaced⟩ := parse_torn parses brace
  exact ⟨decodeJournalEntry_parseless fails, decodeJournalEntry_parseless failsReplaced⟩

/-- A line broken off anywhere is no entry. -/
theorem decode_torn {before after : JsString} (line : encodeJournalEntry entry = before ++ after)
    (some : after ≠ []) : (∃ failure, decodeJournalEntry before = .error failure) ∧
      ∃ failure, decodeJournalEntry (before ++ [replacement]) = .error failure := by
  refine decode_torn_object ?_ line some
  have parses := parse_encode entry
  rw [encodeJournalEntry] at parses
  rw [parses]
  rfl

end ModemStack.Journal
