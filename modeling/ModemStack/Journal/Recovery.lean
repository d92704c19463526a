import Mathlib.Data.List.Dedup
import ModemStack.Data.OrderedMap
import ModemStack.Journal.Store

/-!
Replay of a journal into one record for each operation.

Entries are folded in file order, and the last entry of an operation decides: a
start leaves it pending, a completion resolves it or leaves its outcome unknown.
A modem is to be reconciled if one of its operations is pending or unknown
(`mem_reconciliationRequired_of_last`).
-/

namespace ModemStack.Journal

open ModemStack.Data ModemStack.Domain ModemStack.Text

inductive JournalRecoveryDisposition where
  | pending
  | unknownOutcome
  | resolved
  /-- Only a legacy journal has blocked records. -/
  | blocked
deriving DecidableEq

inductive JournalRecordOrigin where
  | native
  | legacyCeraui
deriving DecidableEq

structure JournalOperationRecord where
  operationId : JsString
  physicalModemId : JsString
  generation : Nat
  descriptor : JournalDescriptorEvidence
  disposition : JournalRecoveryDisposition
  origin : JournalRecordOrigin
  startedAtMs : Nat
  updatedAtMs : Nat
  attempts : Nat
  outcome : Option JournalOutcome
deriving DecidableEq

structure JournalRecovery where
  records : List JournalOperationRecord
  pending : List JournalOperationRecord
  unknownOutcome : List JournalOperationRecord
  blocked : List JournalOperationRecord
  reconciliationRequired : List JsString
  damage : List JournalDamageRecord
deriving DecidableEq

def keyOf (entry : JournalEntry) : JsString :=
  entry.physicalModemId ++ 0 :: (entry.operationId ++ 0 :: printNat entry.generation)

def dispositionOf : JournalOutcome → JournalRecoveryDisposition
  | .unknownOutcome _ => .unknownOutcome
  | _ => .resolved

def JournalPhase.disposition : JournalPhase → JournalRecoveryDisposition
  | .started => .pending
  | .completed outcome => dispositionOf outcome

abbrev RecordMap := OrderedMap JsString JournalOperationRecord

/-- The record of an entry's operation, given the one before it. -/
def recordOf (previous : Option JournalOperationRecord) (entry : JournalEntry) :
    JournalOperationRecord where
  operationId := entry.operationId
  physicalModemId := entry.physicalModemId
  generation := entry.generation
  descriptor := entry.descriptor
  disposition := entry.phase.disposition
  origin := .native
  startedAtMs := (previous.map (·.startedAtMs)).getD entry.recordedAtMs
  updatedAtMs := entry.recordedAtMs
  attempts := match entry.phase with
    | .started => (previous.map (·.attempts)).getD 0 + 1
    | .completed _ => (previous.map (·.attempts)).getD 1
  outcome := match entry.phase with
    | .started => none
    | .completed outcome => some outcome

def foldEntry (byKey : RecordMap) (entry : JournalEntry) : RecordMap :=
  byKey.set (keyOf entry) (recordOf (byKey.get (keyOf entry)) entry)

def foldEntries (entries : List JournalEntry) : RecordMap := entries.foldl foldEntry .empty

def summarizeJournalRecords (records : List JournalOperationRecord)
    (damage : List JournalDamageRecord) : JournalRecovery :=
  let pending := records.filter (·.disposition = .pending)
  let unknownOutcome := records.filter (·.disposition = .unknownOutcome)
  { records, pending, unknownOutcome
    blocked := records.filter (·.disposition = .blocked)
    reconciliationRequired :=
      ((pending ++ unknownOutcome).map (·.physicalModemId)).dedup.mergeSort unitsLe
    damage }

def reconstructJournalRecovery (read : JournalReadResult) : JournalRecovery :=
  summarizeJournalRecords (foldEntries read.journaled).values read.damage

/-! ### The last entry of a key -/

/-- The entry of a key that was written last. -/
def lastOf (key : JsString) (entries : List JournalEntry) : Option JournalEntry :=
  (entries.filter fun entry => keyOf entry = key).getLast?

variable (entries : List JournalEntry)

theorem lastOf_append_same (entry : JournalEntry) :
    lastOf (keyOf entry) (entries ++ [entry]) = some entry := by
  simp [lastOf, List.filter_append]

variable {entry : JournalEntry}

variable {key : JsString}

theorem lastOf_append_other (other : key ≠ keyOf entry) :
    lastOf key (entries ++ [entry]) = lastOf key entries := by
  simp [lastOf, List.filter_append, other.symm]

theorem foldEntries_append (entry : JournalEntry) :
    foldEntries (entries ++ [entry]) = foldEntry (foldEntries entries) entry :=
  List.foldl_append

/-- What the last entry of an operation says about it. -/
structure JournalOperationRecord.Of (record : JournalOperationRecord) (entry : JournalEntry) :
    Prop where
  physicalModemId : record.physicalModemId = entry.physicalModemId
  disposition : record.disposition = entry.phase.disposition

/-- The fold has the last entry of each key. -/
theorem get_foldEntries {entries : List JournalEntry} (last : lastOf key entries = some entry) :
    ∃ record, (foldEntries entries).get key = some record ∧ record.Of entry := by
  induction entries using List.reverseRecOn with
  | nil => cases last
  | append_singleton entries latest ih =>
    rw [foldEntries_append, foldEntry, OrderedMap.get_set]
    by_cases same : key = keyOf latest
    · subst same
      rw [lastOf_append_same] at last
      obtain rfl := Option.some.inj last
      exact ⟨_, if_pos rfl, rfl, rfl⟩
    · rw [lastOf_append_other entries same] at last
      rw [if_neg same]
      exact ih last

/-! ### What must be reconciled -/

/-- A completion with a definite ending. -/
def JournalEntry.Definite (entry : JournalEntry) : Prop :=
  ∃ outcome, entry.phase = .completed outcome ∧ dispositionOf outcome = .resolved

theorem disposition_of_not_definite (unsettled : ¬ entry.Definite) :
    entry.phase.disposition = .pending ∨ entry.phase.disposition = .unknownOutcome := by
  cases isPhase : entry.phase with
  | started => exact .inl rfl
  | completed outcome =>
    cases outcome with
    | unknownOutcome => exact .inr rfl
    | applied | refused | failed => exact absurd ⟨_, isPhase, rfl⟩ unsettled

theorem mem_reconciliationRequired {records : List JournalOperationRecord}
    {damage : List JournalDamageRecord} {modem : JsString} :
    modem ∈ (summarizeJournalRecords records damage).reconciliationRequired ↔
      ∃ record ∈ records, (record.disposition = .pending ∨
        record.disposition = .unknownOutcome) ∧ record.physicalModemId = modem := by
  simp only [summarizeJournalRecords, List.mem_mergeSort, List.mem_dedup, List.mem_map,
    List.mem_append, List.mem_filter, decide_eq_true_eq]
  constructor
  · rintro ⟨record, ⟨mem, is⟩ | ⟨mem, is⟩, rfl⟩
    · exact ⟨record, mem, .inl is, rfl⟩
    · exact ⟨record, mem, .inr is, rfl⟩
  · rintro ⟨record, mem, is | is, rfl⟩
    · exact ⟨record, .inl ⟨mem, is⟩, rfl⟩
    · exact ⟨record, .inr ⟨mem, is⟩, rfl⟩

/-- A modem is to be reconciled if the last entry of one of its keys is not definite. -/
theorem mem_reconciliationRequired_of_last {read : JournalReadResult}
    (last : lastOf key read.journaled = some entry) (unsettled : ¬ entry.Definite) :
    entry.physicalModemId ∈ (reconstructJournalRecovery read).reconciliationRequired := by
  obtain ⟨record, here, isModem, isDisposition⟩ := get_foldEntries last
  refine mem_reconciliationRequired.mpr
    ⟨record, OrderedMap.mem_values_of_get here, ?_, isModem⟩
  rw [isDisposition]
  exact disposition_of_not_definite unsettled

/-! ### Keys -/

theorem zero_not_mem_printNat (n : Nat) : (0 : UInt16) ∉ printNat n := by
  intro mem
  exact absurd (mem_printNat mem).1 (by decide)

/-- Different operations have different keys. -/
def KeysApart (entries : List JournalEntry) : Prop :=
  ∀ entry ∈ entries, ∀ other ∈ entries, keyOf entry = keyOf other →
    entry.operationId = other.operationId

/-- What stands behind the last separator, and what stands before it. -/
theorem separated {before after before' after' : JsString}
    (none : (0 : UInt16) ∉ after) (none' : (0 : UInt16) ∉ after')
    (same : before ++ 0 :: after = before' ++ 0 :: after') : before = before' ∧ after = after' := by
  have split := congrArg (List.splitOn (0 : UInt16)) same
  rw [List.splitOn_append_cons_self, List.splitOn_append_cons_self,
    List.splitOn_eq_singleton none, List.splitOn_eq_singleton none'] at split
  obtain rfl : after = after' := by simpa using (List.append_inj' split rfl).2
  exact ⟨List.append_cancel_right same, rfl⟩

theorem keyOf_eq {entry other : JournalEntry} (same : keyOf entry = keyOf other) :
    entry.physicalModemId ++ 0 :: entry.operationId =
        other.physicalModemId ++ 0 :: other.operationId ∧
      printNat entry.generation = printNat other.generation := by
  refine separated (zero_not_mem_printNat _) (zero_not_mem_printNat _) ?_
  simpa [keyOf] using same

/-- The last entry of an operation is about the modem its entries are about. -/
theorem modem_eq_of_keyOf_eq {entry other : JournalEntry} (same : keyOf entry = keyOf other)
    (operation : entry.operationId = other.operationId) :
    entry.physicalModemId = other.physicalModemId := by
  have front := (keyOf_eq same).1
  rw [operation] at front
  exact List.append_cancel_right front

/-- An operation that is not definite stays to be reconciled until a definite entry of
it follows. -/
theorem mem_reconciliationRequired_of_unsettled {read : JournalReadResult}
    {before after : List JournalEntry} (apart : KeysApart read.journaled)
    (isRead : read.journaled = before ++ entry :: after) (unsettled : ¬ entry.Definite)
    (later : ∀ other ∈ after, other.operationId = entry.operationId → ¬ other.Definite) :
    entry.physicalModemId ∈ (reconstructJournalRecovery read).reconciliationRequired := by
  have tail : read.journaled.filter (fun other => keyOf other = keyOf entry) =
      before.filter (fun other => keyOf other = keyOf entry) ++
        entry :: after.filter fun other => keyOf other = keyOf entry := by
    rw [isRead, List.filter_append, List.filter_cons_of_pos (by simp)]
  obtain ⟨last, isLast⟩ : ∃ last, lastOf (keyOf entry) read.journaled = some last := by
    rw [lastOf, tail]
    exact ⟨_, List.getLast?_eq_some_getLast (by simp)⟩
  have inTail : last ∈ entry :: after.filter fun other => keyOf other = keyOf entry := by
    rw [lastOf, tail, List.getLast?_append_of_ne_nil _ (by simp)] at isLast
    exact List.mem_of_getLast? isLast
  have inRead : last ∈ read.journaled := (List.mem_filter.mp (List.mem_of_getLast? isLast)).1
  have sameKey : keyOf last = keyOf entry := by
    simpa using (List.mem_filter.mp (List.mem_of_getLast? isLast)).2
  have here : entry ∈ read.journaled := by simp [isRead]
  have operation := apart last inRead entry here sameKey
  rw [← modem_eq_of_keyOf_eq sameKey operation]
  refine mem_reconciliationRequired_of_last isLast ?_
  rcases List.mem_cons.mp inTail with rfl | mem
  · exact unsettled
  · exact later last (List.mem_filter.mp mem).1 operation

end ModemStack.Journal
