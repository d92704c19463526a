import ModemStack.Data.GroupFold
import ModemStack.Journal.Recovery

/-!
What a recovery says of the operations of a journal.

An operation is a modem, an operation id and a generation. The recovery tells the
operations of a journal apart by a key that joins these; it has one record of each, telling
of that operation's entries, just when no two operations of the journal share a key
(`recovers_iff`).
-/

namespace ModemStack.Journal

open ModemStack.Data ModemStack.Text

structure JournalOperation where
  physicalModemId : JsString
  operationId : JsString
  generation : Nat
deriving DecidableEq

def JournalEntry.operation (entry : JournalEntry) : JournalOperation :=
  ⟨entry.physicalModemId, entry.operationId, entry.generation⟩

def JournalOperationRecord.operation (record : JournalOperationRecord) : JournalOperation :=
  ⟨record.physicalModemId, record.operationId, record.generation⟩

def JournalOperation.key (operation : JournalOperation) : JsString :=
  operation.physicalModemId ++ 0 :: (operation.operationId ++ 0 :: printNat operation.generation)

/-- The entries of one operation. -/
def entriesOf (operation : JournalOperation) (entries : List JournalEntry) : List JournalEntry :=
  entries.filter fun entry => entry.operation = operation

/-! ### What a record says -/

/-- A record that tells of the entries of its operation, in their order. -/
structure JournalOperationRecord.Tells (record : JournalOperationRecord)
    (own : List JournalEntry) : Prop where
  /-- The first entry: when the operation began. A first entry that is a completion stands
  for one attempt. -/
  first : ∃ entry rest, own = entry :: rest ∧ record.startedAtMs = entry.recordedAtMs ∧
    record.attempts = own.countP (fun entry => entry.phase = .started) +
      if entry.phase = .started then 0 else 1
  /-- The last entry: what is known of the operation. -/
  last : ∃ before entry, own = before ++ [entry] ∧ record.updatedAtMs = entry.recordedAtMs ∧
    record.descriptor = entry.descriptor ∧
    (record.outcome = none ↔ entry.phase = .started) ∧
    (∀ outcome, record.outcome = some outcome ↔ entry.phase = .completed outcome) ∧
    (record.disposition = .pending ↔ entry.phase = .started) ∧
    (record.disposition = .unknownOutcome ↔
      ∃ reason, entry.phase = .completed (.unknownOutcome reason)) ∧
    (record.disposition ≠ .pending → record.disposition ≠ .unknownOutcome →
      record.disposition = .resolved)

/-- One record for each operation, in the order of first appearance, telling of its
entries; and the modems of the pending and the unknown ones to reconcile. -/
structure Recovers (entries : List JournalEntry) (recovery : JournalRecovery) : Prop where
  operations : recovery.records.map (·.operation) = (entries.map (·.operation)).eraseDups
  tells : ∀ record ∈ recovery.records, record.Tells (entriesOf record.operation entries)
  distinct : recovery.reconciliationRequired.Nodup
  reconciliation : ∀ modem, modem ∈ recovery.reconciliationRequired ↔
    ∃ record ∈ recovery.records, (record.disposition = .pending ∨
      record.disposition = .unknownOutcome) ∧ record.physicalModemId = modem

/-- No two operations of one generation read alike when modem and operation id are joined
by a NUL. -/
def OperationsApart (entries : List JournalEntry) : Prop :=
  ∀ entry ∈ entries, ∀ other ∈ entries, entry.generation = other.generation →
    entry.physicalModemId ++ 0 :: entry.operationId =
      other.physicalModemId ++ 0 :: other.operationId →
    entry.physicalModemId = other.physicalModemId

/-! ### The record of some entries -/

/-- The record that is folded from entries, the first one on. -/
abbrev collected (own : List JournalEntry) : Option JournalOperationRecord :=
  OrderedMap.collect recordOf own

variable {own : List JournalEntry} {record : JournalOperationRecord} {entries : List JournalEntry}

theorem collected_isSome (some' : own ≠ []) : ∃ record, collected own = some record := by
  rw [← List.dropLast_append_getLast some']
  exact ⟨_, OrderedMap.collect_concat recordOf _ _⟩

/-- The last entry names the operation. -/
theorem collected_operation {operation : JournalOperation}
    (all : ∀ entry ∈ own, entry.operation = operation) (isRecord : collected own = some record) :
    record.operation = operation := by
  induction own using List.reverseRecOn with
  | nil => cases isRecord
  | append_singleton before entry =>
    rw [collected, OrderedMap.collect_concat] at isRecord
    rw [← Option.some.inj isRecord, ← all entry (by simp)]
    rfl

theorem attempts_recordOf (previous : Option JournalOperationRecord) (entry : JournalEntry) :
    (recordOf previous entry).attempts =
      match previous with
      | none => 1
      | some record => record.attempts + [entry].countP fun entry => entry.phase = .started := by
  cases previous with
  | none | some => cases isPhase : entry.phase <;> simp [recordOf, isPhase]

/-- A later entry leaves the beginning as it is, and counts if it is a start. -/
theorem first_collected (isRecord : collected own = some record) :
    ∃ entry rest, own = entry :: rest ∧ record.startedAtMs = entry.recordedAtMs ∧
      record.attempts = own.countP (fun entry => entry.phase = .started) +
        if entry.phase = .started then 0 else 1 := by
  induction own using List.reverseRecOn generalizing record with
  | nil => cases isRecord
  | append_singleton before latest ih =>
    rw [collected, OrderedMap.collect_concat] at isRecord
    rw [← Option.some.inj isRecord, attempts_recordOf]
    cases before with
    | nil =>
      refine ⟨latest, [], rfl, rfl, ?_⟩
      by_cases isStart : latest.phase = .started
      · simp [isStart, OrderedMap.collect]
      · simp [isStart, OrderedMap.collect]
    | cons entry rest =>
      obtain ⟨previous, isPrevious⟩ := collected_isSome (List.cons_ne_nil entry rest)
      obtain ⟨_, _, same, began, attempts⟩ := ih isPrevious
      obtain ⟨rfl, rfl⟩ := List.cons.inj same
      simp only [collected] at isPrevious
      rw [isPrevious]
      refine ⟨entry, rest ++ [latest], rfl, began, ?_⟩
      change previous.attempts + _ = _
      rw [attempts, List.countP_append]
      omega

/-- The last entry alone decides what is known. -/
theorem last_collected (isRecord : collected own = some record) :
    ∃ before entry previous, own = before ++ [entry] ∧ record = recordOf previous entry := by
  induction own using List.reverseRecOn with
  | nil => cases isRecord
  | append_singleton before entry =>
    rw [collected, OrderedMap.collect_concat] at isRecord
    exact ⟨before, entry, _, rfl, (Option.some.inj isRecord).symm⟩

theorem collected_tells (isRecord : collected own = some record) : record.Tells own := by
  constructor
  · exact first_collected isRecord
  · obtain ⟨before, entry, previous, isLast, rfl⟩ := last_collected isRecord
    refine ⟨before, entry, isLast, rfl, rfl, ?_⟩
    cases isPhase : entry.phase with
    | started => simp [recordOf, isPhase, JournalPhase.disposition]
    | completed outcome =>
      cases outcome <;> simp [recordOf, isPhase, JournalPhase.disposition, dispositionOf]

/-! ### The records of a recovery -/

theorem keyOf_eq_iff {entry other : JournalEntry} :
    keyOf entry = keyOf other ↔ entry.generation = other.generation ∧
      entry.physicalModemId ++ 0 :: entry.operationId =
        other.physicalModemId ++ 0 :: other.operationId := by
  constructor
  · intro same
    obtain ⟨front, generation⟩ := keyOf_eq same
    exact ⟨printNat_injective generation, front⟩
  · rintro ⟨generation, front⟩
    have joined := congrArg (· ++ 0 :: printNat entry.generation) front
    simpa [keyOf, generation] using joined

theorem operation_eq_of_keyOf_eq (apart : OperationsApart entries) {entry other : JournalEntry}
    (mem : entry ∈ entries) (mem' : other ∈ entries) (same : keyOf entry = keyOf other) :
    entry.operation = other.operation := by
  obtain ⟨generation, front⟩ := keyOf_eq_iff.mp same
  have modem := apart entry mem other mem' generation front
  rw [modem] at front
  have operationId := List.cons.inj (List.append_cancel_left front)
  simp [JournalEntry.operation, modem, operationId.2, generation]

theorem foldEntries_eq_group (entries : List JournalEntry) :
    foldEntries entries = OrderedMap.group keyOf recordOf entries :=
  rfl

/-- The records of the operations, each collected from that operation's entries. -/
theorem records_of_apart (apart : OperationsApart entries) : (foldEntries entries).values =
      ((entries.map (·.operation)).eraseDups).filterMap fun operation =>
        collected (entriesOf operation entries) := by
  have keys : entries.map keyOf = (entries.map (·.operation)).map (·.key) := by
    rw [List.map_map]
    rfl
  have keysApart : ∀ operation ∈ entries.map (·.operation),
      ∀ other ∈ entries.map (·.operation), operation.key = other.key → operation = other := by
    intro operation mem other mem' same
    obtain ⟨entry, listed, rfl⟩ := List.mem_map.mp mem
    obtain ⟨entry', listed', rfl⟩ := List.mem_map.mp mem'
    exact operation_eq_of_keyOf_eq apart listed listed' same
  rw [foldEntries_eq_group, OrderedMap.values_group, keys, OrderedMap.eraseDups_map keysApart,
    List.filterMap_map]
  apply List.filterMap_congr
  intro operation mem
  obtain ⟨entry, listed, rfl⟩ := List.mem_map.mp (List.mem_eraseDups.mp mem)
  have own : entries.filter (fun other => keyOf other = entry.operation.key) =
      entriesOf entry.operation entries := by
    apply List.filter_congr
    intro other listed'
    have sameKey : keyOf other = entry.operation.key ↔ other.operation = entry.operation := by
      constructor
      · exact operation_eq_of_keyOf_eq apart listed' listed
      · intro same
        rw [← same]
        rfl
    rw [decide_eq_decide]
    exact sameKey
  exact congrArg collected own

theorem nodup_keys_foldEntries (entries : List JournalEntry) : (foldEntries entries).keys.Nodup := by
  rw [foldEntries_eq_group, OrderedMap.keys_group]
  exact OrderedMap.nodup_eraseDups _

/-- A record stands under the key of its operation. -/
theorem key_of_mem_items {item : JsString × JournalOperationRecord}
    (mem : item ∈ (foldEntries entries).items) : item.2.operation.key = item.1 := by
  have here := OrderedMap.get_of_mem_items (nodup_keys_foldEntries entries) mem
  rw [foldEntries_eq_group, OrderedMap.get_group] at here
  obtain ⟨before, entry, previous, own, isRecord⟩ := last_collected here
  have isOwn : entry ∈ entries.filter fun entry => keyOf entry = item.1 := by
    rw [own]
    simp
  have isKey : keyOf entry = item.1 := by simpa using (List.mem_filter.mp isOwn).2
  rw [isRecord]
  exact isKey

/-- Two records of one key are one. -/
theorem eq_of_key_eq {record other : JournalOperationRecord}
    (mem : record ∈ (foldEntries entries).values) (mem' : other ∈ (foldEntries entries).values)
    (same : record.operation.key = other.operation.key) : record = other := by
  obtain ⟨item, listed, rfl⟩ := List.mem_map.mp mem
  obtain ⟨item', listed', rfl⟩ := List.mem_map.mp mem'
  have distinct := nodup_keys_foldEntries entries
  have here := OrderedMap.get_of_mem_items distinct listed
  have here' := OrderedMap.get_of_mem_items distinct listed'
  rw [← key_of_mem_items listed, same, key_of_mem_items listed', here'] at here
  exact (Option.some.inj here).symm

/-- The modems to reconcile, whatever the records. -/
theorem nodup_reconciliationRequired (records : List JournalOperationRecord)
    (damage : List JournalDamageRecord) :
    (summarizeJournalRecords records damage).reconciliationRequired.Nodup := by
  have sorted := List.mergeSort_perm
    ((((records.filter (·.disposition = .pending)) ++
      records.filter (·.disposition = .unknownOutcome)).map (·.physicalModemId)).dedup) unitsLe
  exact sorted.nodup_iff.mpr (List.nodup_dedup _)

theorem recovers_of_apart {read : JournalReadResult} (apart : OperationsApart read.journaled) :
    Recovers read.journaled (reconstructJournalRecovery read) := by
  have records : (reconstructJournalRecovery read).records =
      ((read.journaled.map (·.operation)).eraseDups).filterMap fun operation =>
        collected (entriesOf operation read.journaled) := records_of_apart apart
  have each : ∀ operation ∈ (read.journaled.map (·.operation)).eraseDups,
      ∃ record, collected (entriesOf operation read.journaled) = some record ∧
        record.operation = operation := by
    intro operation mem
    obtain ⟨entry, listed, rfl⟩ := List.mem_map.mp (List.mem_eraseDups.mp mem)
    have some' : entriesOf entry.operation read.journaled ≠ [] :=
      List.ne_nil_of_mem (List.mem_filter.mpr ⟨listed, by simp⟩)
    obtain ⟨record, isRecord⟩ := collected_isSome some'
    refine ⟨record, isRecord, collected_operation ?_ isRecord⟩
    intro other own
    simpa using (List.mem_filter.mp own).2
  constructor
  · rw [records, List.map_filterMap]
    have named : ∀ operation ∈ (read.journaled.map (·.operation)).eraseDups,
        (collected (entriesOf operation read.journaled)).map (·.operation) = some operation := by
      intro operation mem
      obtain ⟨record, isRecord, isOperation⟩ := each operation mem
      rw [isRecord, Option.map_some, isOperation]
    rw [List.filterMap_congr named, List.filterMap_some]
  · intro record mem
    rw [records] at mem
    obtain ⟨operation, listed, isRecord⟩ := List.mem_filterMap.mp mem
    obtain ⟨record', isRecord', isOperation⟩ := each operation listed
    obtain rfl : record = record' := by rwa [isRecord, Option.some.injEq] at isRecord'
    rw [isOperation]
    exact collected_tells isRecord
  · exact nodup_reconciliationRequired _ _
  · intro modem
    exact mem_reconciliationRequired

/-- A recovery tells of each operation of a journal, of nothing else, and of each by its
own entries, just when the operations of the journal can be told apart by their joined
ids. -/
theorem recovers_iff (read : JournalReadResult) :
    Recovers read.journaled (reconstructJournalRecovery read) ↔
      OperationsApart read.journaled := by
  constructor
  · intro recovers entry mem other mem' generation front
    have recorded : ∀ entry ∈ read.journaled, ∃ record ∈ (foldEntries read.journaled).values,
        record.operation = entry.operation := by
      intro entry mem
      have listed := List.mem_eraseDups.mpr (List.mem_map_of_mem (f := (·.operation)) mem)
      rw [← recovers.operations] at listed
      exact List.mem_map.mp listed
    obtain ⟨record, stands, isOperation⟩ := recorded entry mem
    obtain ⟨record', stands', isOperation'⟩ := recorded other mem'
    have sameKey : record.operation.key = record'.operation.key := by
      rw [isOperation, isOperation']
      exact keyOf_eq_iff.mpr ⟨generation, front⟩
    rw [eq_of_key_eq stands stands' sameKey, isOperation'] at isOperation
    exact congrArg JournalOperation.physicalModemId isOperation.symm
  · exact recovers_of_apart

/-- The start of an operation of a modem. -/
def startOf (physicalModemId operationId : JsString) : JournalEntry where
  operationId
  physicalModemId
  generation := 1
  recordedAtMs := 1
  descriptor :=
    { descriptorId := js "modemmanager.bands"
      provider := js "modemmanager"
      authority := .provider
      mutationImpact := .disruptive
      profiles := []
      firmware := []
      confidence := .high }
  phase := .started

/-- The starts of two operations whose ids join to one text. -/
def joinedStarts : List JournalEntry :=
  [startOf (js "modem") [0x61, 0, 0x62], startOf (js "modem" ++ [0, 0x61]) [0x62]]

theorem writable_joinedStarts {entry : JournalEntry} (mem : entry ∈ joinedStarts) :
    entry.Writable := by
  simp only [joinedStarts, List.mem_cons, List.not_mem_nil, or_false] at mem
  rcases mem with rfl | rfl
  · exact ⟨⟨by decide, by decide, by decide, by decide, by decide, by decide⟩,
      fun _ isPhase => by cases isPhase⟩
  · exact ⟨⟨by decide, by decide, by decide, by decide, by decide, by decide⟩,
      fun _ isPhase => by cases isPhase⟩

/-- Both are read from their lines, and the recovery has one record, of the second. -/
theorem joinedStarts_merged :
    (∀ entry ∈ joinedStarts, decodeJournalEntry (encodeJournalEntry entry) = .ok entry) ∧
      (reconstructJournalRecovery ⟨joinedStarts.map (⟨1, ·⟩), []⟩).reconciliationRequired =
        [js "modem" ++ [0, 0x61]] ∧
      ¬ Recovers joinedStarts
        (reconstructJournalRecovery ⟨joinedStarts.map (⟨1, ·⟩), []⟩) := by
  refine ⟨fun entry mem => decode_encode (writable_joinedStarts mem), by decide +kernel, ?_⟩
  intro recovers
  have operations := recovers.operations
  revert operations
  decide

end ModemStack.Journal
