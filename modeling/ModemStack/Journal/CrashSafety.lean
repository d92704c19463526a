import ModemStack.Journal.Record
import ModemStack.Journal.Recovery
import ModemStack.Operations.Gate
import ModemStack.Operations.Records

/-!
The engine and its journal, up to a crash.

Each record an invocation makes is handed to one store, which writes the lines in
the order of the calls and answers a call when its line is written. The process
may die at any moment, in the middle of a line or not. What the journal then says
must be reconciled covers every modem whose mutation had called `execute` without
a definite record on disk (`crash_safety`).
-/

namespace ModemStack.Journal

open ModemStack.Async ModemStack.Domain ModemStack.Operations ModemStack.Text Program

variable {I O : Type}

/-! ### The engine with its journal -/

structure Journaled (I O : Type) where
  machine : Machine I O
  /-- The records handed to the store, with the calls that made them. -/
  calls : List (Nat × JournalEntry)
  /-- How many of them have been written. -/
  written : Nat
  store : Store

/-- The record a call is waiting for. -/
def recordBy (m : Machine I O) (id : Nat) : Option (OperationJournalEvent I O) :=
  (m.threads id).bind fun thread => thread.task.pending.bind Hook.event

namespace Journaled

/-- The record the acting call has handed to the store in its turn. -/
def handed (m' : Machine I O) (now : Nat) : Action → List (Nat × JournalEntry)
  | .turn id => ((recordBy m' id).map fun event => (id, entryFor event now)).toList
  | .other => []

/-- The process dies while the next line is being written, if there is one. -/
def crash (j : Journaled I O) (opens : Bool) (bytes : Nat) : Store :=
  match j.calls[j.written]? with
  | none => j.store
  | some (_, entry) => j.store.appendNow ⟨entry, opens, .writeStops bytes⟩

/-- The records whose line is on disk after the crash. -/
def durable (j : Journaled I O) (opens : Bool) (bytes : Nat) : List (Nat × JournalEntry) :=
  match j.calls[j.written]? with
  | none => j.calls.take j.written
  | some (_, entry) =>
    if j.store.Whole ⟨entry, opens, .writeStops bytes⟩ then j.calls.take (j.written + 1)
    else j.calls.take j.written

end Journaled

/-- The probe can open the file, or finds nothing to close in it. -/
def Probed (s : Store) (opens : Bool) : Prop := opens = true ∨ Store.Closed s.bytes

inductive JournaledStep [OperationInput I] : Journaled I O → Journaled I O → Prop where
  /-- The engine takes a step; a record is answered only once it has been written. -/
  | engine {j : Journaled I O} {action : Action} {m' : Machine I O} (now : Nat)
      (step : Step j.machine action m')
      (answers : ∀ id event, action = .turn id → recordBy j.machine id = some event →
        ∀ call ∈ j.calls.drop j.written, call.1 ≠ id) :
      JournaledStep j
        { j with machine := m', calls := j.calls ++ Journaled.handed m' now action }
  /-- The store writes the next line. -/
  | write {j : Journaled I O} {id : Nat} {entry : JournalEntry} (opens : Bool)
      (next : j.calls[j.written]? = some (id, entry)) (probed : Probed j.store opens) :
      JournaledStep j
        { j with
          written := j.written + 1
          store := j.store.appendNow ⟨entry, opens, .resolves⟩ }

/-- An engine and a store that have just been created. -/
def Journaled.init (generations : PhysicalModemId → DeviceGeneration)
    (file : Option (List UInt8)) : Journaled I O where
  machine := .init generations
  calls := []
  written := 0
  store := ⟨file, none⟩

abbrev JournaledRun [OperationInput I] : Journaled I O → Journaled I O → Prop :=
  Relation.ReflTransGen JournaledStep

/-! ### Calls and the records behind them -/

/-- The entries of one call. -/
def own (calls : List (Nat × JournalEntry)) (id : Nat) : List JournalEntry :=
  (calls.filter fun call => call.1 = id).map Prod.snd

theorem own_append (calls more : List (Nat × JournalEntry)) (id : Nat) :
    own (calls ++ more) id = own calls id ++ own more id := by
  simp [own]

variable {calls : List (Nat × JournalEntry)} {id : Nat}

theorem mem_own {entry : JournalEntry} : entry ∈ own calls id ↔ (id, entry) ∈ calls := by
  simp only [own, List.mem_map, List.mem_filter, decide_eq_true_eq]
  constructor
  · rintro ⟨⟨other, entry⟩, ⟨mem, rfl⟩, rfl⟩
    exact mem
  · intro mem
    exact ⟨(id, entry), ⟨mem, rfl⟩, rfl⟩

theorem own_eq_nil (none : ∀ call ∈ calls, call.1 ≠ id) : own calls id = [] := by
  rw [own, List.filter_eq_nil_iff.mpr (by simpa using none)]
  rfl

theorem own_take_length (calls : List (Nat × JournalEntry)) (id : Nat) {m n : Nat} (le : m ≤ n) :
    (own (calls.take m) id).length ≤ (own (calls.take n) id).length := by
  rw [own, own, List.length_map, List.length_map]
  exact ((List.take_sublist_take_left le).filter _).length_le

/-- The records a call has made, those answered and the one it waits for. -/
def Thread.records (thread : Thread I O) : List (OperationJournalEvent I O) :=
  recorded thread.history ++ (thread.task.pending.bind Hook.event).toList

/-- The entry is the record, made at some time. -/
def Stamped (event : OperationJournalEvent I O) (entry : JournalEntry) : Prop :=
  ∃ now, entry = entryFor event now

/-- What is read of the lines of the calls. -/
def readable (calls : List (Nat × JournalEntry)) : List JournalEntry :=
  lineEntries (calls.map fun call => encodeJournalEntry call.2)

theorem readable_append (calls more : List (Nat × JournalEntry)) :
    readable (calls ++ more) = readable calls ++ readable more := by
  rw [readable, List.map_append, Store.lineEntries_append]
  rfl

theorem take_next {n id : Nat} {entry : JournalEntry} (next : calls[n]? = some (id, entry)) :
    calls.take (n + 1) = calls.take n ++ [(id, entry)] := by
  rw [List.take_add_one, next]
  rfl

/-- What holds of the engine, its calls and the file together. -/
structure Journaled.Kept (old : List JournalEntry) (j : Journaled I O) [OperationInput I] :
    Prop where
  wf : j.machine.Wf
  bound : j.written ≤ j.calls.length
  flag : j.store.FlagRight
  entries : (decodeJournalText j.store.text).journaled =
    old ++ readable (j.calls.take j.written)
  records : ∀ id thread, j.machine.threads id = some thread →
    List.Forall₂ Stamped (Thread.records thread) (own j.calls id)
  unbegun : ∀ id, j.machine.threads id = none → own j.calls id = []
  answered : ∀ id thread, j.machine.threads id = some thread →
    (recorded thread.history).length ≤ (own (j.calls.take j.written) id).length

section Runs

variable [OperationInput I] {j j' : Journaled I O} {old : List JournalEntry}

theorem kept_init {generations : PhysicalModemId → DeviceGeneration}
    {file : Option (List UInt8)} :
    (Journaled.init generations file : Journaled I O).Kept
      (decodeJournalText (decodeUtf8 (file.getD []))).journaled where
  wf := Machine.wf_init
  bound := le_rfl
  flag := by rintro ⟨⟩
  entries := (List.append_nil _).symm
  records := by rintro id thread ⟨⟩
  unbegun _ _ := rfl
  answered := by rintro id thread ⟨⟩

omit [OperationInput I] in
theorem Probed.sound {s : Store} {a : Attempt} (right : s.FlagRight)
    (probed : Probed s a.opens) : s.Sound a := by
  rcases probed with opens | closed
  · exact Store.sound_of_flagRight right opens
  · exact fun _ _ => closed

variable {entry : JournalEntry}

variable {id : Nat}

theorem Journaled.Kept.write {opens : Bool} (kept : j.Kept old)
    (next : j.calls[j.written]? = some (id, entry)) (probed : Probed j.store opens) :
    Journaled.Kept old
      { j with
        written := j.written + 1
        store := j.store.appendNow ⟨entry, opens, .resolves⟩ } where
  wf := kept.wf
  bound := (List.getElem?_eq_some_iff.mp next).1
  flag := Store.flagRight_resolves rfl
  entries := by
    have sound : j.store.Sound ⟨entry, opens, .resolves⟩ := Probed.sound kept.flag probed
    rw [Store.journaled_appendNow sound, if_pos (Store.whole_of_resolves rfl), kept.entries,
      take_next next, readable_append, List.append_assoc]
    rfl
  records := kept.records
  unbegun := kept.unbegun
  answered other thread here :=
    (kept.answered other thread here).trans (own_take_length j.calls other (Nat.le_succ _))

omit [OperationInput I] in
theorem handed_other (m' : Machine I O) (now : Nat) {id other : Nat} (ne : other ≠ id) :
    own (Journaled.handed m' now (.turn id)) other = [] := by
  refine own_eq_nil fun call mem => ?_
  simp only [Journaled.handed, Option.mem_toList, Option.map_eq_some_iff] at mem
  obtain ⟨event, -, rfl⟩ := mem
  exact ne.symm

omit [OperationInput I] in
theorem handed_self {m' : Machine I O} {thread : Thread I O} (now : Nat)
    (here : m'.threads id = some thread) :
    List.Forall₂ Stamped (thread.task.pending.bind Hook.event).toList
      (own (Journaled.handed m' now (.turn id)) id) := by
  have isRecord : recordBy m' id = thread.task.pending.bind Hook.event := by
    rw [recordBy, here]
    rfl
  rw [Journaled.handed, isRecord]
  cases thread.task.pending.bind Hook.event with
  | none => exact .nil
  | some => simpa [own] using ⟨now, rfl⟩

omit [OperationInput I] in
/-- The records a call had made before its turn. -/
theorem records_before {m m' : Machine I O} {thread : Thread I O} (turn : Turn m id m' thread) :
    thread.history = [] ∧ m.threads id = none ∨
      ∃ before, m.threads id = some before ∧ Thread.records before = recorded thread.history ∧
        (recordBy m id = none → recorded before.history = recorded thread.history) := by
  refine turn.past.imp_right ?_
  rintro ⟨before, event, here, -, -, isHistory, -, waits⟩
  refine ⟨before, here, ?_, fun silent => ?_⟩
  · rw [Thread.records, isHistory, waits, recorded]
    rfl
  · have quiet : event.op.event = none := by
      rw [recordBy, here, Option.bind_some, waits] at silent
      exact silent
    rw [isHistory, recorded_quiet quiet]

theorem Journaled.Kept.engine {action : Action} {m' : Machine I O} (kept : j.Kept old)
    (now : Nat) (step : Step j.machine action m')
    (answers : ∀ id event, action = .turn id → recordBy j.machine id = some event →
      ∀ call ∈ j.calls.drop j.written, call.1 ≠ id) :
    Journaled.Kept old
      { j with machine := m', calls := j.calls ++ Journaled.handed m' now action } := by
  have bound := kept.bound
  have taken : (j.calls ++ Journaled.handed m' now action).take j.written =
      j.calls.take j.written := List.take_append_of_le_length bound
  have wf' := kept.wf.step step
  cases action with
  | other =>
    have threads := step.other.1
    exact
      { wf := wf'
        bound := by simpa [Journaled.handed] using bound
        flag := kept.flag
        entries := by simpa [taken] using kept.entries
        records := by simpa [Journaled.handed, threads] using kept.records
        unbegun := by simpa [Journaled.handed, threads] using kept.unbegun
        answered := by simpa [taken, threads] using kept.answered }
  | turn id =>
    obtain ⟨thread, turn⟩ := step.turn kept.wf
    have before := records_before turn
    exact
      { wf := wf'
        bound := bound.trans (by simp)
        flag := kept.flag
        entries := by simpa [taken] using kept.entries
        records := by
          intro other thread' here
          simp only [own_append]
          by_cases self : other = id
          · subst self
            obtain rfl := Option.some.inj (turn.threads_self.symm.trans here)
            refine List.rel_append ?_ (handed_self now turn.threads_self)
            rcases before with ⟨isNew, none⟩ | ⟨past, isPast, same, -⟩
            · rw [isNew, kept.unbegun other none]
              exact .nil
            · exact same ▸ kept.records other past isPast
          · rw [handed_other m' now self, List.append_nil]
            exact kept.records other thread' (turn.threads_other self ▸ here)
        unbegun := by
          intro other none
          have self : other ≠ id := by
            rintro rfl
            simp [turn.threads_self] at none
          rw [turn.threads_other self] at none
          rw [own_append, kept.unbegun other none, handed_other m' now self]
          rfl
        answered := by
          intro other thread' here
          simp only [taken]
          by_cases self : other = id
          · subst self
            obtain rfl := Option.some.inj (turn.threads_self.symm.trans here)
            rcases before with ⟨isNew, -⟩ | ⟨past, isPast, same, silent⟩
            · rw [isNew]
              exact Nat.zero_le _
            · cases waits : recordBy j.machine other with
              | none => exact silent waits ▸ kept.answered other past isPast
              | some event =>
                have all : own j.calls other = own (j.calls.take j.written) other := by
                  conv_lhs => rw [← List.take_append_drop j.written j.calls, own_append]
                  rw [own_eq_nil (answers other event rfl waits), List.append_nil]
                rw [← all, ← same]
                exact (kept.records other past isPast).length_eq.le
          · exact kept.answered other thread' (turn.threads_other self ▸ here) }

theorem Journaled.Kept.step (kept : j.Kept old) (step : JournaledStep j j') : j'.Kept old := by
  cases step with
  | engine now step answers => exact kept.engine now step answers
  | write opens next probed => exact kept.write next probed

theorem kept_run {generations : PhysicalModemId → DeviceGeneration} {file : Option (List UInt8)}
    (run : JournaledRun (.init generations file) j) :
    j.Kept (decodeJournalText (decodeUtf8 (file.getD []))).journaled := by
  induction run with
  | refl => exact kept_init
  | tail _ last ih => exact ih.step last

/-! ### The records of one call -/

theorem invoke_records {execution : OperationExecution I O} {begun : EngineState} :
    (Request.invoke execution).task.Always (RecordCall execution) AnyDone begun [] := by
  rw [Request.task, always_monad_bind]
  refine invokeNow_records.mono (fun _ _ _ => id) fun history outcome s _ => ?_
  cases outcome <;> trivial

theorem reconcile_quiet {execution : ReconciliationExecution} {begun : EngineState} :
    (Request.reconcile execution : Request I O).task.Always (QuietCall []) AnyDone begun [] := by
  rw [Request.task, always_monad_bind]
  refine reconcileNow_quiet.mono (fun _ _ _ => id) fun history outcome s _ => ?_
  cases outcome <;> trivial

variable {thread : Thread I O}

/-- The records of an invocation are those of a history it may have: the one it has,
with the record it waits for, if it waits for one, answered. -/
theorem records_history {execution : OperationExecution I O} (reached : thread.Reached)
    (isInvoke : thread.request = .invoke execution) :
    Called (RecordCall execution) thread.history ∧
      ∃ history, Called (RecordCall execution) history ∧
        recorded history = Thread.records thread := by
  unfold Thread.Reached at reached
  rw [isInvoke] at reached
  have called := reached.called invoke_records
  refine ⟨called, ?_⟩
  cases waits : thread.task.pending with
  | none =>
    refine ⟨thread.history, called, ?_⟩
    rw [Thread.records, waits]
    exact (List.append_nil _).symm
  | some hook =>
    refine ⟨⟨hook, .error ⟨[]⟩, thread.since, thread.since⟩ :: thread.history,
      ⟨(reached.always invoke_records).pending waits, called⟩, ?_⟩
    rw [Thread.records, waits]
    rfl

theorem reconcile_records {execution : ReconciliationExecution} (reached : thread.Reached)
    (isReconcile : thread.request = .reconcile execution) : Thread.records thread = [] := by
  unfold Thread.Reached at reached
  rw [isReconcile] at reached
  have silent : recorded thread.history = [] := by
    have called := reached.called reconcile_quiet
    cases isHistory : thread.history with
    | nil => rfl
    | cons =>
      rw [isHistory] at called
      exact (recorded_quiet called.1.1).trans called.1.2
  rw [Thread.records, silent]
  cases waits : thread.task.pending with
  | none => rfl
  | some hook =>
    have quiet : hook.event = none := ((reached.always reconcile_quiet).pending waits).1
    rw [Option.bind_some, quiet]
    rfl

/-- An entry handed to the store is one of its call's records. -/
theorem Journaled.Kept.stamped (kept : j.Kept old) (here : j.machine.threads id = some thread)
    (mem : (id, entry) ∈ j.calls) : ∃ event ∈ Thread.records thread, Stamped event entry := by
  have records := kept.records id thread here
  obtain ⟨n, lt, rfl⟩ := List.mem_iff_getElem.mp (mem_own.mpr mem)
  have lt' : n < (Thread.records thread).length := records.length_eq ▸ lt
  exact ⟨_, List.getElem_mem lt', records.get lt' lt⟩

/-- An entry handed to the store is about the operation of the invocation that made
it. -/
theorem Journaled.Kept.mem_calls (kept : j.Kept old) (mem : (id, entry) ∈ j.calls) :
    ∃ thread execution, j.machine.threads id = some thread ∧
      thread.request = .invoke execution ∧ execution.hasJournal = true ∧
      entry.operationId = execution.operationId := by
  cases here : j.machine.threads id with
  | none =>
    have inOwn := mem_own.mpr mem
    simp [kept.unbegun id here] at inOwn
  | some thread =>
    have reached := kept.wf.reached id thread here
    obtain ⟨event, isRecord, now, rfl⟩ := kept.stamped here mem
    cases isRequest : thread.request with
    | reconcile => simp [reconcile_records reached isRequest] at isRecord
    | invoke execution =>
      obtain ⟨-, history, called, same⟩ := records_history reached isRequest
      obtain ⟨journaled, operation, -⟩ := mem_recorded called (same ▸ isRecord)
      exact ⟨thread, execution, rfl, isRequest, journaled, operation⟩

/-! ### After the crash -/

/-- The file after the crash: what it held before the run, and the durable records. -/
theorem Journaled.Kept.crash (kept : j.Kept old) {opens : Bool} (bytes : Nat)
    (probed : Probed j.store opens) :
    (decodeJournalText (j.crash opens bytes).text).journaled =
      old ++ readable (j.durable opens bytes) := by
  unfold Journaled.crash Journaled.durable
  cases next : j.calls[j.written]? with
  | none => exact kept.entries
  | some call =>
    obtain ⟨id, entry⟩ := call
    have sound : j.store.Sound ⟨entry, opens, .writeStops bytes⟩ :=
      Probed.sound kept.flag probed
    simp only
    rw [Store.journaled_appendNow sound, kept.entries]
    split_ifs
    · rw [take_next next, readable_append, List.append_assoc]
      rfl
    · rw [List.append_nil]

omit [OperationInput I] in
theorem take_subset_durable (opens : Bool) (bytes : Nat) {call : Nat × JournalEntry}
    (mem : call ∈ j.calls.take j.written) : call ∈ j.durable opens bytes := by
  unfold Journaled.durable
  cases next : j.calls[j.written]? with
  | none => exact mem
  | some latest =>
    simp only
    split_ifs
    · rw [take_next (show j.calls[j.written]? = some (latest.1, latest.2) from next)]
      exact List.mem_append_left _ mem
    · exact mem

omit [OperationInput I] in
theorem durable_subset_calls {opens : Bool} {bytes : Nat} {call : Nat × JournalEntry}
    (mem : call ∈ j.durable opens bytes) : call ∈ j.calls := by
  unfold Journaled.durable at mem
  split at mem
  · exact List.mem_of_mem_take mem
  · split_ifs at mem <;> exact List.mem_of_mem_take mem

theorem readable_singleton (writable : entry.Writable) : readable [(id, entry)] = [entry] :=
  Store.lineEntries_encode writable

/-- What is read of a durable line is the entry handed to the store. -/
theorem mem_readable {calls : List (Nat × JournalEntry)}
    (identified : ∀ call ∈ calls, call.2.Identified) (mem : entry ∈ readable calls) :
    ∃ id, (id, entry) ∈ calls := by
  simp only [readable, lineEntries, List.mem_filterMap, List.mem_map] at mem
  obtain ⟨line, ⟨⟨id, handed⟩, isCall, rfl⟩, reads⟩ := mem
  rcases decode_encode_cases (identified _ isCall) with ok | ⟨failure, fails⟩
  · rw [ok] at reads
    obtain rfl : handed = entry := by simpa [Except.toOption] using reads
    exact ⟨id, isCall⟩
  · rw [fails] at reads
    cases reads

end Runs

section Crash

variable [OperationInput I]

/-- Every mutation has the journal. -/
def MutationsJournaled (m : Machine I O) : Prop :=
  ∀ id thread execution, m.threads id = some thread → thread.request = .invoke execution →
    execution.descriptor.kind = .write → execution.hasJournal = true

/-- No other journaled call has the operation id of a mutation. -/
def DistinctOperations (m : Machine I O) : Prop :=
  ∀ id thread execution other thread' execution',
    m.threads id = some thread → thread.request = .invoke execution →
    execution.descriptor.kind = .write →
    m.threads other = some thread' → thread'.request = .invoke execution' →
    execution'.hasJournal = true →
    execution'.operationId = execution.operationId → other = id

/-- The call has made a record of a result that leaves the device unknown. -/
def Thread.EndsUnknown (thread : Thread I O) : Prop :=
  ∃ event ∈ Thread.records thread, ∃ result, event.phase = .completed result ∧
    result.requiresReconciliation = true

variable {j : Journaled I O} {old : List JournalEntry} {opens : Bool} {bytes : Nat}

/-- A mutation whose started record is durable, and no definite one of it, has its
modem reconciled. -/
theorem Journaled.Kept.unsettled (kept : j.Kept old) (probed : Probed j.store opens)
    (distinct : DistinctOperations j.machine)
    (identified : ∀ call ∈ j.calls, call.2.Identified)
    (apart : KeysApart (decodeJournalText (j.crash opens bytes).text).journaled)
    {id : Nat} {thread : Thread I O} {execution : OperationExecution I O}
    {generation : DeviceGeneration} {rest : List (OperationJournalEvent I O)}
    (here : j.machine.threads id = some thread) (isInvoke : thread.request = .invoke execution)
    (isWrite : execution.descriptor.kind = .write)
    (started : recorded thread.history = startedEvent execution generation :: rest)
    (undecided : ∀ entry, (id, entry) ∈ j.durable opens bytes → ¬ entry.Definite) :
    execution.physicalModemId.text ∈ (reconstructJournalRecovery
      (decodeJournalText (j.crash opens bytes).text)).reconciliationRequired := by
  obtain ⟨now, mem⟩ : ∃ now, (id, entryFor (startedEvent execution generation) now) ∈
      j.calls.take j.written := by
    have records := kept.records id thread here
    have answered := kept.answered id thread here
    rw [Thread.records, started, List.cons_append] at records
    have split : own j.calls id = own (j.calls.take j.written) id ++
        own (j.calls.drop j.written) id := by
      rw [← own_append, List.take_append_drop]
    cases isOwn : own (j.calls.take j.written) id with
    | nil => simp [isOwn, started] at answered
    | cons =>
      rw [split, isOwn, List.cons_append] at records
      obtain ⟨⟨now, rfl⟩, -⟩ := List.forall₂_cons.mp records
      exact ⟨now, mem_own.mp (isOwn ▸ List.mem_cons_self)⟩
  have isDurable := take_subset_durable opens bytes mem
  have identifiedHere := identified _ (durable_subset_calls isDurable)
  obtain ⟨before, after, isSplit⟩ := List.append_of_mem isDurable
  have writable : (entryFor (startedEvent execution generation) now).Writable :=
    ⟨identifiedHere, by rintro outcome ⟨⟩⟩
  have isRead : (decodeJournalText (j.crash opens bytes).text).journaled =
      (old ++ readable before) ++ entryFor (startedEvent execution generation) now ::
        readable after := by
    rw [kept.crash bytes probed, isSplit, ← List.singleton_append, readable_append,
      readable_append, readable_singleton writable, List.append_assoc]
    rfl
  refine mem_reconciliationRequired_of_unsettled apart isRead (by rintro ⟨outcome, ⟨⟩, -⟩) ?_
  intro other inAfter operation
  have isAfter : ∀ call ∈ after, call ∈ j.durable opens bytes := by
    intro call mem
    rw [isSplit]
    exact List.mem_append_right _ (List.mem_cons_of_mem _ mem)
  obtain ⟨otherId, isCall⟩ := mem_readable
    (fun call mem => identified call (durable_subset_calls (isAfter call mem))) inAfter
  have isDurable' := isAfter _ isCall
  obtain ⟨thread', execution', here', isInvoke', journaled, operation'⟩ :=
    kept.mem_calls (durable_subset_calls isDurable')
  obtain rfl : otherId = id := distinct id thread execution otherId thread' execution' here
    isInvoke isWrite here' isInvoke' journaled (operation'.symm.trans operation)
  exact undecided other isDurable'

omit [OperationInput I] in
theorem not_definite_of_unknown {entry : JournalEntry} {reason : UnknownOutcomeReason}
    (isPhase : entry.phase = .completed (.unknownOutcome reason)) : ¬ entry.Definite := by
  rintro ⟨outcome, isOutcome, isResolved⟩
  rw [isPhase] at isOutcome
  cases isOutcome
  cases isResolved

/-- A call that ended with an unknown outcome has a started record answered, and hands
no definite record to the store. -/
theorem Journaled.Kept.endsUnknown (kept : j.Kept old) {id : Nat} {thread : Thread I O}
    {execution : OperationExecution I O} (here : j.machine.threads id = some thread)
    (isInvoke : thread.request = .invoke execution) (unknown : Thread.EndsUnknown thread) :
    (∃ generation rest, recorded thread.history = startedEvent execution generation :: rest) ∧
      ∀ entry, (id, entry) ∈ j.calls → ¬ entry.Definite := by
  have reached := kept.wf.reached id thread here
  obtain ⟨past, history, called, same⟩ := records_history reached isInvoke
  obtain ⟨event, mem, result, isPhase, isUnknown⟩ := unknown
  rw [← same] at mem
  obtain none | ⟨generation, one⟩ | ⟨generation, ending, two⟩ := recorded_cases called
  · simp [none] at mem
  · rw [one, List.mem_singleton] at mem
    rw [mem] at isPhase
    cases isPhase
  · have isEnding : result = ending := by
      rw [two, List.mem_cons, List.mem_singleton] at mem
      rcases mem with rfl | rfl
      · cases isPhase
      · exact (OperationJournalPhase.completed.inj isPhase).symm
    subst isEnding
    rw [two] at same
    refine ⟨?_, fun entry isCall => ?_⟩
    · cases isRecorded : recorded thread.history with
      | nil =>
        rw [Thread.records, isRecorded, List.nil_append] at same
        cases waits : thread.task.pending.bind Hook.event <;> simp [waits] at same
      | cons first rest =>
        rw [Thread.records, isRecorded, List.cons_append, List.cons.injEq] at same
        exact ⟨generation, rest, by rw [same.1]⟩
    · obtain ⟨made, isMade, now, rfl⟩ := kept.stamped here isCall
      rw [← same, List.mem_cons, List.mem_singleton] at isMade
      rcases isMade with rfl | rfl
      · rintro ⟨outcome, ⟨⟩, -⟩
      · cases result with
        | unknownOutcome => exact not_definite_of_unknown rfl
        | _ => cases isUnknown

/-- Whatever the moment of the crash, the modem of a mutation that has called
`execute` is to be reconciled unless a definite record of the mutation is durable, and
so is the modem of one that ended with an unknown outcome. Of what was journaled
before, an unknown outcome asks for a reconciliation until a definite record of its
operation follows. -/
theorem crash_safety {generations : PhysicalModemId → DeviceGeneration}
    {file : Option (List UInt8)} (run : JournaledRun (.init generations file) j)
    (probed : Probed j.store opens) (journaled : MutationsJournaled j.machine)
    (distinct : DistinctOperations j.machine)
    (identified : ∀ call ∈ j.calls, call.2.Identified)
    (apart : KeysApart (decodeJournalText (j.crash opens bytes).text).journaled) :
    let read := decodeJournalText (j.crash opens bytes).text
    let required := (reconstructJournalRecovery read).reconciliationRequired
    (∀ id thread modem s, j.machine.threads id = some thread → thread.Mutates modem →
        thread.CallsExecute s →
        (∀ entry, (id, entry) ∈ j.durable opens bytes → ¬ entry.Definite) →
        modem.text ∈ required) ∧
      (∀ id thread modem, j.machine.threads id = some thread → thread.Mutates modem →
        Thread.EndsUnknown thread → modem.text ∈ required) ∧
      ∀ before entry after reason, read.journaled = before ++ entry :: after →
        entry.phase = .completed (.unknownOutcome reason) →
        (∀ other ∈ after, other.operationId = entry.operationId → ¬ other.Definite) →
        entry.physicalModemId ∈ required := by
  have kept := kept_run run
  refine ⟨?_, ?_, ?_⟩
  · rintro id thread modem s here ⟨execution, isInvoke, isWrite, rfl⟩ executes undecided
    have hasJournal := journaled id thread execution here isInvoke isWrite
    have reached := kept.wf.reached id thread here
    obtain ⟨generation, rest, started⟩ : ∃ generation rest,
        recorded thread.history = startedEvent execution generation :: rest := by
      obtain ⟨context, ⟨waits, -⟩ | ⟨event, mem, isExecute, -⟩⟩ := executes
      · unfold Thread.Reached at reached
        rw [isInvoke] at reached
        obtain ⟨generation, one⟩ :=
          (reached.always invoke_records).pending waits hasJournal
        exact ⟨generation, [], one⟩
      · exact recorded_of_execute (records_history reached isInvoke).1 hasJournal mem isExecute
    exact kept.unsettled probed distinct identified apart here isInvoke isWrite started undecided
  · rintro id thread modem here ⟨execution, isInvoke, isWrite, rfl⟩ unknown
    obtain ⟨⟨generation, rest, started⟩, undecided⟩ := kept.endsUnknown here isInvoke unknown
    exact kept.unsettled probed distinct identified apart here isInvoke isWrite started
      fun entry isDurable => undecided entry (durable_subset_calls isDurable)
  · intro before entry after reason isRead isPhase later
    exact mem_reconciliationRequired_of_unsettled apart isRead (not_definite_of_unknown isPhase)
      later

end Crash

/-! ### A mutation that has called `execute` -/

/-- A plain mutation with a journal. -/
def journaledExecution (operationId : JsString) : OperationExecution Unit Unit :=
  { plainExecution .write with operationId, hasJournal := true }

/-- The engine takes a step in which no record is answered. -/
theorem JournaledRun.next {j₀ j : Journaled Unit Unit} (run : JournaledRun j₀ j)
    {action : Action} {m' : Machine Unit Unit} (now : Nat) (step : Step j.machine action m')
    (silent : ∀ id, action = .turn id → recordBy j.machine id = none) :
    JournaledRun j₀
      { j with machine := m', calls := j.calls ++ Journaled.handed m' now action } := by
  refine .tail run (.engine now step ?_)
  rintro id event isTurn isRecord
  rw [silent id isTurn] at isRecord
  cases isRecord

/-- Call 0 goes on with an answer; if it was a record's, everything handed to the
store has been written. -/
theorem JournaledRun.answer {j₀ j : Journaled Unit Unit} (run : JournaledRun j₀ j)
    (op : Hook Unit Unit) (answer : Except Rejection op.Answer) (now : Nat)
    {thread : Thread Unit Unit} {next : Except Rejection op.Answer → Task Unit Unit (Reply Unit)}
    (here : j.machine.threads 0 = some thread) (waits : thread.task = .await op next)
    (written : recordBy j.machine 0 = none ∨ j.calls.drop j.written = []) :
    let m' := j.machine.put 0 (thread.resume next answer j.machine.engine)
    JournaledRun j₀
      { j with machine := m', calls := j.calls ++ Journaled.handed m' now (.turn 0) } := by
  refine .tail run (.engine now (.resume 0 thread next here waits answer) ?_)
  rintro id event ⟨rfl⟩ isRecord
  rcases written with silent | nothing
  · rw [silent] at isRecord
    cases isRecord
  · simp [nothing]

theorem JournaledRun.write {j₀ j : Journaled Unit Unit} (run : JournaledRun j₀ j)
    {entry : JournalEntry} (next : j.calls[j.written]? = some (id, entry)) : JournaledRun j₀
      { j with
        written := j.written + 1
        store := j.store.appendNow ⟨entry, true, .resolves⟩ } :=
  .tail run (.write true next (.inl rfl))

/-- A run up to the first `execute`. -/
theorem exists_executing (operationId : JsString) :
    ∃ (j : Journaled Unit Unit) (thread : Thread Unit Unit) (s : EngineState),
      JournaledRun (.init (fun _ => 0) none) j ∧ j.machine.threads 0 = some thread ∧
        thread.request = .invoke (journaledExecution operationId) ∧ thread.CallsExecute s ∧
        j.machine.requests = Function.update (fun _ => none) 0
          (some (.invoke (journaledExecution operationId))) ∧
        j.calls = [(0, entryFor (startedEvent (journaledExecution operationId) 0) 1000)] ∧
        j.written = 1 ∧
        j.store = Store.appendNow ⟨none, none⟩
          ⟨entryFor (startedEvent (journaledExecution operationId) 0) 1000, true,
            .resolves⟩ := by
  have start : JournaledRun (.init (fun _ => 0) none : Journaled Unit Unit)
    (.init (fun _ => 0) none) := .refl
  have begun := (start.next 1000 (.enqueue (.invoke (journaledExecution operationId)) rfl)
    nofun).next 1000 (.start 0 _ rfl ⟨plainModem, none, rfl, nofun⟩) (by rintro _ ⟨rfl⟩; rfl)
  have records := ((begun.answer (.check _) (.ok .satisfied) 1000 rfl rfl (.inl rfl)).answer
    (.pause _) (.ok ()) 1000 rfl rfl (.inl rfl))
  have executes := (records.write rfl).answer (.record _) (.ok ()) 1000 rfl rfl (.inr rfl)
  exact ⟨_, _, _, executes, rfl, rfl, ⟨_, .inl ⟨rfl, rfl⟩⟩, rfl, rfl, rfl, rfl⟩

/-- In such a run the mutation is the only call. -/
theorem only_call {j : Journaled Unit Unit} {operationId : JsString} {old : List JournalEntry}
    (kept : j.Kept old) (requests : j.machine.requests = Function.update (fun _ => none) 0
      (some (.invoke (journaledExecution operationId)))) {thread : Thread Unit Unit}
    {execution : OperationExecution Unit Unit} (here : j.machine.threads id = some thread)
    (isInvoke : thread.request = .invoke execution) :
    id = 0 ∧ execution = journaledExecution operationId := by
  have submitted := kept.wf.requests id thread here
  rw [requests, isInvoke, Function.update_apply] at submitted
  split_ifs at submitted with isFirst
  exact ⟨isFirst, (Request.invoke.inj (Option.some.inj submitted)).symm⟩

/-- Up to the first `execute`, with every mutation journaled under its own id. -/
theorem exists_executing_journaled (operationId : JsString) :
    ∃ (j : Journaled Unit Unit) (thread : Thread Unit Unit) (s : EngineState),
      JournaledRun (.init (fun _ => 0) none) j ∧ MutationsJournaled j.machine ∧
        DistinctOperations j.machine ∧ j.machine.threads 0 = some thread ∧
        thread.Mutates plainModem ∧ thread.CallsExecute s ∧
        (∀ entry, (0, entry) ∈ j.durable true 0 → ¬ entry.Definite) ∧
        j.calls = [(0, entryFor (startedEvent (journaledExecution operationId) 0) 1000)] ∧
        j.crash true 0 = Store.appendNow ⟨none, none⟩
          ⟨entryFor (startedEvent (journaledExecution operationId) 0) 1000, true,
            .resolves⟩ := by
  obtain ⟨j, thread, s, run, here, isInvoke, executes, requests, calls, written, store⟩ :=
    exists_executing operationId
  have kept := kept_run run
  refine ⟨j, thread, s, run, ?_, ?_, here, ⟨_, isInvoke, rfl, rfl⟩, executes, ?_, calls, ?_⟩
  · intro id thread execution here isInvoke _
    rw [(only_call kept requests here isInvoke).2]
    rfl
  · intro id thread execution other thread' execution' here isInvoke _ here' isInvoke' _ _
    rw [(only_call kept requests here isInvoke).1, (only_call kept requests here' isInvoke').1]
  · intro entry isDurable
    have isCall := durable_subset_calls isDurable
    rw [calls, List.mem_singleton] at isCall
    cases isCall
    rintro ⟨outcome, ⟨⟩, -⟩
  · rw [Journaled.crash, calls, written, store]
    rfl

/-- A crash while the device is being written to leaves its modem to be reconciled. -/
theorem crash_safety_executing :
    ∃ j : Journaled Unit Unit, JournaledRun (.init (fun _ => 0) none) j ∧
      plainModem.text ∈ (reconstructJournalRecovery
        (decodeJournalText (j.crash true 0).text)).reconciliationRequired := by
  obtain ⟨j, thread, s, run, journaled, distinct, here, mutates, executes, undecided, calls,
    crashed⟩ := exists_executing_journaled (js "operation-1")
  refine ⟨j, run, (crash_safety run (.inl rfl) journaled distinct ?_ ?_).1 0 thread plainModem s
    here mutates executes undecided⟩
  · rw [calls, List.forall_mem_singleton]
    exact ⟨by decide, by decide, by decide, by decide, by decide, by decide⟩
  · have isRead : (decodeJournalText (j.crash true 0).text).journaled =
        [entryFor (startedEvent (journaledExecution (js "operation-1")) 0) 1000] := by
      rw [crashed]
      decide +kernel
    rw [isRead]
    intro entry mem other mem' _
    rw [List.mem_singleton.mp mem, List.mem_singleton.mp mem']

/-- The decoder refuses an empty operation id, which the engine and the store accept:
the started record is damage, and the modem is not to be reconciled. -/
theorem crash_safety_fails :
    ∃ (j : Journaled Unit Unit) (thread : Thread Unit Unit) (s : EngineState),
      JournaledRun (.init (fun _ => 0) none) j ∧ MutationsJournaled j.machine ∧
        DistinctOperations j.machine ∧ j.machine.threads 0 = some thread ∧
        thread.Mutates plainModem ∧ thread.CallsExecute s ∧
        (∀ entry, (0, entry) ∈ j.durable true 0 → ¬ entry.Definite) ∧
        plainModem.text ∉ (reconstructJournalRecovery
          (decodeJournalText (j.crash true 0).text)).reconciliationRequired := by
  obtain ⟨j, thread, s, run, journaled, distinct, here, mutates, executes, undecided, -,
    crashed⟩ := exists_executing_journaled []
  refine ⟨j, thread, s, run, journaled, distinct, here, mutates, executes, undecided, ?_⟩
  have nothing : (decodeJournalText (j.crash true 0).text).journaled = [] := by
    rw [crashed]
    decide +kernel
  intro required
  obtain ⟨record, mem, -⟩ := mem_reconciliationRequired.mp required
  rw [nothing] at mem
  cases mem

end ModemStack.Journal
