import ModemStack.Operations.EngineLaws

/-!
What one invocation hands to its journal.

A `started` record comes before the first `execute`, a `completed` record of the
same generation after the completion hooks, and no other record is made
(`invokeNow_records`).
-/

namespace ModemStack.Operations

open ModemStack.Async ModemStack.Domain Program

variable {I O : Type}

/-- The record a hook makes. -/
def Hook.event : Hook I O → Option (OperationJournalEvent I O)
  | .record event => some event
  | _ => none

/-- The records answered so far, the first one first. -/
def recorded : History I O → List (OperationJournalEvent I O)
  | [] => []
  | event :: history => recorded history ++ event.op.event.toList

def startedEvent (execution : OperationExecution I O) (generation : DeviceGeneration) :
    OperationJournalEvent I O :=
  ⟨execution.operationId, execution.physicalModemId, generation, execution.descriptor,
    .started execution.input⟩

def completedEvent (execution : OperationExecution I O) (generation : DeviceGeneration)
    (result : OperationResult O) : OperationJournalEvent I O :=
  ⟨execution.operationId, execution.physicalModemId, generation, execution.descriptor,
    .completed result⟩

/-- What has been recorded when an invocation calls a hook. -/
def RecordCall (execution : OperationExecution I O) (history : History I O) :
    Hook I O → EngineState → Prop
  | .record event, _ => execution.hasJournal = true ∧
      ((recorded history = [] ∧ ∃ generation, event = startedEvent execution generation) ∨
        ∃ generation result, recorded history = [startedEvent execution generation] ∧
          event = completedEvent execution generation result)
  | .execute _, _ => execution.hasJournal = true →
      ∃ generation, recorded history = [startedEvent execution generation]
  | _, _ => True

/-- A call that records nothing, with `events` recorded before it. -/
def QuietCall (events : List (OperationJournalEvent I O)) (history : History I O)
    (hook : Hook I O) (_ : EngineState) : Prop :=
  hook.event = none ∧ recorded history = events

def QuietDone {α : Type} (events : List (OperationJournalEvent I O)) (history : History I O)
    (_ : Except Rejection α) (_ : EngineState) : Prop :=
  recorded history = events

section Quiet

variable {execution : OperationExecution I O} {generation : DeviceGeneration}
  {s : EngineState} {history : History I O} {events : List (OperationJournalEvent I O)}

theorem recorded_quiet {event : EngineEvent I O} (quiet : event.op.event = none) :
    recorded (event :: history) = recorded history := by
  rw [recorded, quiet]
  exact List.append_nil _

/-- After the started record, nothing that records nothing is out of place. -/
theorem QuietCall.recordCall {hook : Hook I O}
    (started : execution.hasJournal = true →
      ∃ generation, events = [startedEvent execution generation])
    (quiet : QuietCall events history hook s) : RecordCall execution history hook s := by
  obtain ⟨none, isRecorded⟩ := quiet
  cases hook with
  | record => cases none
  | execute => exact fun journaled => isRecorded ▸ started journaled
  | _ => trivial

theorem executeAttempts_quiet {remaining attempt : Nat} (before : recorded history = events) :
    (executeAttempts execution generation remaining attempt).Always (QuietCall events)
      (QuietDone events) s history := by
  induction remaining generalizing attempt s history with
  | zero => exact before
  | succ remaining ih =>
    simp only [executeAttempts, always_monad_bind, always_callHook, always_get]
    refine ⟨⟨rfl, before⟩, fun answer resumed => ?_⟩
    cases answer with
    | error => exact (recorded_quiet rfl).trans before
    | ok =>
      simp only [onOutcome_ok]
      split
      · exact (recorded_quiet rfl).trans before
      · exact ih ((recorded_quiet rfl).trans before)

variable {context : OperationAttemptContext}

theorem runRollback_quiet (before : recorded history = events) :
    (runRollback execution context).Always (QuietCall events) (QuietDone events) s history := by
  unfold runRollback
  split
  · simp only [always_monad_bind, always_callHook, always_pure]
    refine ⟨⟨rfl, before⟩, fun answer resumed => ?_⟩
    cases answer <;> exact (recorded_quiet rfl).trans before
  · rw [always_pause]
    exact ⟨⟨rfl, before⟩, fun _ _ => (recorded_quiet rfl).trans before⟩

/-- A rollback and the result after it. -/
theorem runRollback_then_quiet {result : OperationResult O} (before : recorded history = events) :
    (runRollback execution context >>= fun _ => pure result).Always (QuietCall events)
      (QuietDone events) s history := by
  rw [always_monad_bind]
  refine (runRollback_quiet before).mono (fun _ _ _ => id) fun history outcome s ended => ?_
  cases outcome <;> exact ended

theorem judgeReadback_quiet {result readback : OperationResult O} {matches' : I → O → Bool}
    (before : recorded history = events) :
    (judgeReadback execution result context matches' readback).Always (QuietCall events)
      (QuietDone events) s history := by
  cases readback with
  | applied =>
    simp only [judgeReadback]
    split
    · exact before
    · exact runRollback_then_quiet before
  | refused => exact runRollback_then_quiet before
  | unknownOutcome => exact before
  | failed => exact runRollback_then_quiet before

theorem runCompletionHooks_quiet {result : OperationResult O}
    (before : recorded history = events) :
    (runCompletionHooks execution result generation).Always (QuietCall events)
      (QuietDone events) s history := by
  cases result with
  | applied =>
    simp only [runCompletionHooks]
    split
    · exact before
    · split
      · simp only [always_monad_bind, always_callHook, always_get]
        refine ⟨⟨rfl, before⟩, fun answer resumed => ?_⟩
        cases answer with
        | error => exact (recorded_quiet rfl).trans before
        | ok => exact judgeReadback_quiet ((recorded_quiet rfl).trans before)
      · simp only [always_monad_bind, always_pause, always_pure, onOutcome_ok]
        exact ⟨⟨rfl, before⟩, fun _ _ => (recorded_quiet rfl).trans before⟩
  | failed =>
    simp only [runCompletionHooks]
    split
    · exact runRollback_then_quiet before
    · exact before
  | refused | unknownOutcome => exact before

end Quiet

section Records

variable {execution : OperationExecution I O} {generation : DeviceGeneration}
  {s : EngineState} {history : History I O}

/-! ### The records of a history -/

theorem recorded_cases (called : Called (RecordCall execution) history) :
    recorded history = [] ∨
      (∃ generation, recorded history = [startedEvent execution generation]) ∨
      ∃ generation result, recorded history =
        [startedEvent execution generation, completedEvent execution generation result] := by
  induction history with
  | nil => exact .inl rfl
  | cons event history ih =>
    obtain ⟨call, earlier⟩ := called
    cases isRecord : event.op.event with
    | none =>
      rw [recorded_quiet isRecord]
      exact ih earlier
    | some record =>
      rw [recorded, isRecord]
      obtain ⟨op, answer, called, resumed⟩ := event
      cases op with
      | record made =>
        obtain rfl : made = record := Option.some.inj isRecord
        rcases call.2 with ⟨none, generation, rfl⟩ | ⟨generation, result, one, rfl⟩
        · exact .inr (.inl ⟨generation, by rw [none]; rfl⟩)
        · exact .inr (.inr ⟨generation, result, by rw [one]; rfl⟩)
      | _ => cases isRecord

/-- Every record is about the invocation's own operation. -/
theorem mem_recorded (called : Called (RecordCall execution) history)
    {event : OperationJournalEvent I O} (mem : event ∈ recorded history) :
    execution.hasJournal = true ∧ event.operationId = execution.operationId ∧
      event.physicalModemId = execution.physicalModemId := by
  induction history with
  | nil => cases mem
  | cons last history ih =>
    obtain ⟨call, earlier⟩ := called
    rw [recorded, List.mem_append] at mem
    rcases mem with before | now
    · exact ih earlier before
    · obtain ⟨op, answer, called, resumed⟩ := last
      cases op with
      | record made =>
        obtain rfl : event = made := by simpa [Hook.event] using now
        obtain ⟨journaled, ⟨-, generation, rfl⟩ | ⟨generation, result, -, rfl⟩⟩ := call
        · exact ⟨journaled, rfl, rfl⟩
        · exact ⟨journaled, rfl, rfl⟩
      | _ => simp [Hook.event] at now

/-- Once `execute` has been called, the started record has been answered. -/
theorem recorded_of_execute (called : Called (RecordCall execution) history)
    (journaled : execution.hasJournal = true) {event : EngineEvent I O}
    {context : OperationAttemptContext} (mem : event ∈ history)
    (isExecute : event.op = .execute context) :
    ∃ generation rest, recorded history = startedEvent execution generation :: rest := by
  induction history with
  | nil => cases mem
  | cons last history ih =>
    rw [recorded]
    rcases List.mem_cons.mp mem with rfl | mem
    · have call := called.1
      rw [isExecute] at call ⊢
      obtain ⟨generation, one⟩ := call journaled
      exact ⟨generation, [], by rw [one]; rfl⟩
    · obtain ⟨generation, rest, isRecorded⟩ := ih called.2 mem
      exact ⟨generation, rest ++ last.op.event.toList, by rw [isRecorded]; rfl⟩

/-! ### The whole invocation -/

/-- Nothing is asked of how an invocation ends. -/
abbrev AnyDone {α : Type} (_ : History I O) (_ : Except Rejection α) (_ : EngineState) : Prop :=
  True

theorem recordCompleted_records {result : OperationResult O}
    (before : execution.hasJournal = true →
      recorded history = [startedEvent execution generation]) :
    (record execution generation (.completed result) .completedNotJournaled >>=
        fun _ => pure result).Always (RecordCall execution) AnyDone s history := by
  rw [always_monad_bind]
  unfold record
  split
  · next journaled =>
    simp only [always_monad_bind, always_callHook, always_pure]
    refine ⟨⟨journaled, .inr ⟨generation, result, before journaled, rfl⟩⟩,
      fun answer resumed => ?_⟩
    cases answer <;> trivial
  · rw [always_pause]
    exact ⟨trivial, fun _ _ => trivial⟩

theorem recordStarted_records (before : recorded history = []) :
    (record execution generation (.started execution.input) .startedNotJournaled).Always
      (RecordCall execution) (fun history _ _ => execution.hasJournal = true →
        recorded history = [startedEvent execution generation]) s history := by
  unfold record
  split
  · next journaled =>
    simp only [always_monad_bind, always_callHook, always_pure]
    refine ⟨⟨journaled, .inl ⟨before, generation, rfl⟩⟩, fun answer resumed => ?_⟩
    have now : ∀ answer, recorded (⟨.record (startedEvent execution generation), answer, s,
        resumed⟩ :: history) = [startedEvent execution generation] := by
      intro answer
      rw [recorded, before]
      rfl
    cases answer <;> exact fun _ => now _
  · next unjournaled =>
    rw [always_pause]
    exact ⟨trivial, fun _ _ journaled => absurd journaled unjournaled⟩

theorem runAdmitted_records (before : recorded history = []) :
    (runAdmitted execution generation).Always (RecordCall execution) AnyDone s history := by
  simp only [runAdmitted, always_monad_bind, always_call]
  refine (recordStarted_records before).mono (fun _ _ _ => id) fun started outcome s isStarted => ?_
  have inPlace : ∀ history hook s, QuietCall (recorded started) history hook s →
      RecordCall execution history hook s :=
    fun _ _ _ quiet => quiet.recordCall fun journaled => ⟨generation, isStarted journaled⟩
  cases outcome with
  | error => trivial
  | ok _ =>
    rw [onOutcome_ok]
    refine (executeAttempts_quiet rfl).mono inPlace fun history outcome s executed => ?_
    refine ⟨trivial, fun answer resumed => ?_⟩
    cases outcome with
    | error => trivial
    | ok =>
      rw [onOutcome_ok]
      refine (runCompletionHooks_quiet ((recorded_quiet rfl).trans executed)).mono inPlace
        fun history outcome ended hooked => ?_
      refine ⟨trivial, fun answer resumed => ?_⟩
      cases outcome with
      | error => trivial
      | ok =>
        rw [onOutcome_ok]
        have before : execution.hasJournal = true →
            recorded (⟨.pause .runCompletionHooks, answer, ended, resumed⟩ :: history) =
              [startedEvent execution generation] := fun journaled =>
          (recorded_quiet rfl).trans (hooked.trans (isStarted journaled))
        split
        · rw [always_monad_bind, always_modify, onOutcome_ok]
          exact recordCompleted_records before
        · exact recordCompleted_records before

theorem releaseAdmission_records {admission : MutationAdmissionResult}
    {Done : History I O → Except Rejection Unit → EngineState → Prop}
    (done : ∀ history outcome s, Done history outcome s) :
    ((releaseAdmission admission).call (.pause .releaseAdmission)).Always
      (RecordCall execution) Done s history := by
  rw [always_call]
  unfold releaseAdmission
  split
  · simp only [always_monad_bind, always_callHook, always_pure]
    refine ⟨trivial, fun answer resumed => ?_⟩
    cases answer <;> exact ⟨trivial, fun _ _ => done _ _ _⟩
  · exact ⟨trivial, fun _ _ => done _ _ _⟩

theorem acquireMutationAdmission_records
    {Done : History I O → Except Rejection MutationAdmissionResult → EngineState → Prop}
    (before : recorded history = [])
    (done : ∀ history outcome s, recorded history = [] → Done history outcome s) :
    (acquireMutationAdmission execution).Always (RecordCall execution) Done s history := by
  unfold acquireMutationAdmission
  split
  · simp only [always_monad_bind, always_pause, always_pure, onOutcome_ok]
    exact ⟨trivial, fun _ _ => done _ _ _ ((recorded_quiet rfl).trans before)⟩
  · split
    · simp only [always_monad_bind, always_pause, always_pure, onOutcome_ok]
      exact ⟨trivial, fun _ _ => done _ _ _ ((recorded_quiet rfl).trans before)⟩
    · simp only [always_monad_bind, always_callHook]
      refine ⟨trivial, fun answer resumed => ?_⟩
      have later : ∀ outcome, Done (⟨.acquire _, answer, s, resumed⟩ :: history) outcome
          resumed :=
        fun outcome => done _ outcome resumed ((recorded_quiet rfl).trans before)
      rcases answer with error | decision
      · exact later _
      · cases decision <;> exact later _

theorem runChecked_records (before : recorded history = []) :
    (runChecked execution generation).Always (RecordCall execution) AnyDone s history := by
  have admitted : ∀ {admission : MutationAdmissionResult} {history : History I O}
      {s : EngineState}, recorded history = [] →
      ((runAdmitted execution generation).ensuring
        ((releaseAdmission admission).call (.pause .releaseAdmission))).Always
        (RecordCall execution) AnyDone s history := by
    intro admission history s before
    rw [always_ensuring]
    refine (runAdmitted_records before).mono (fun _ _ _ => id) fun history outcome s _ => ?_
    refine releaseAdmission_records fun history cleaned s => ?_
    cases cleaned <;> trivial
  rw [runChecked, always_monad_bind]
  refine acquireMutationAdmission_records before fun history outcome s before => ?_
  cases outcome with
  | error => trivial
  | ok admission =>
    cases admission with
    | refused => trivial
    | notRequired | admitted => exact admitted before

/-- One invocation, whatever its hooks answer. -/
theorem invokeNow_records [OperationInput I] {begun : EngineState} :
    (invokeNow execution).Always (RecordCall execution) AnyDone begun [] := by
  simp only [invokeNow, always_monad_bind, always_get, onOutcome_ok]
  split
  · trivial
  · split
    · trivial
    · simp only [always_monad_bind, always_callHook]
      refine ⟨trivial, fun answer resumed => ?_⟩
      rcases answer with error | precondition
      · trivial
      · cases precondition with
        | refused => trivial
        | satisfied => exact runChecked_records rfl

/-- A reconciliation makes no record. -/
theorem reconcileNow_quiet {execution : ReconciliationExecution} {begun : EngineState} :
    (reconcileNow execution : Task I O ReconciliationResult).Always (QuietCall [])
      AnyDone begun [] := by
  simp only [reconcileNow, always_monad_bind, always_get, onOutcome_ok]
  split
  · trivial
  · split
    · trivial
    · simp only [always_monad_bind, always_callHook, always_get]
      refine ⟨⟨rfl, rfl⟩, fun answer resumed => ?_⟩
      rcases answer with error | run
      · trivial
      · simp only [onOutcome_ok]
        split
        · trivial
        · cases run <;> trivial

end Records

end ModemStack.Operations
