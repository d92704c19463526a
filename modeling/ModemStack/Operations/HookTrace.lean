import ModemStack.Operations.Stages

/-!
The trace of an invocation's hooks.

No stage is entered twice, and each hook is called in stages of its own. So the order of the hooks
and how often each is called is read off the stages (`invokeNow_trace`).
-/

namespace ModemStack.Operations

open ModemStack.Async ModemStack.Domain Program

variable {I O : Type}

/-! ### Moves -/

/-- How an answer takes an invocation from one stage to the next. -/
inductive Move (execution : OperationExecution I O) (generation : DeviceGeneration) :
    Stage O → EngineEvent I O → Stage O → Prop where
  | satisfied {request called resumed} :
      Move execution generation .begun ⟨.check request, .ok .satisfied, called, resumed⟩ .checked
  | unsatisfied {request reason called resumed} :
      Move execution generation .begun ⟨.check request, .ok (.refused reason), called, resumed⟩
        (.ended (.ok (.refused reason generation)))
  | checkRejected {request error called resumed} :
      Move execution generation .begun ⟨.check request, .error error, called, resumed⟩
        (.ended (.error error))
  | notRequired {answer called resumed} :
      Move execution generation .checked ⟨.pause .admissionNotRequired, answer, called, resumed⟩
        (.admitted false)
  | portMissing {answer called resumed reason} :
      Move execution generation .checked ⟨.pause .admissionPortMissing, answer, called, resumed⟩
        (.ended (.ok (.refused reason generation)))
  | granted {request called resumed} :
      Move execution generation .checked ⟨.acquire request, .ok .admitted, called, resumed⟩
        (.admitted true)
  | notAdmitted {request reason called resumed} :
      Move execution generation .checked ⟨.acquire request, .ok (.refused reason), called, resumed⟩
        (.ended (.ok (.refused reason.text generation)))
  | acquireRejected {request error called resumed} :
      Move execution generation .checked ⟨.acquire request, .error error, called, resumed⟩
        (.ended (.error error))
  | started {lease input answer called resumed} :
      Move execution generation (.admitted lease) ⟨.record ⟨execution.operationId,
        execution.physicalModemId, generation, execution.descriptor, .started input⟩, .ok answer,
        called, resumed⟩ (.journaled lease)
  | startedRejected {lease input error called resumed} :
      Move execution generation (.admitted lease) ⟨.record ⟨execution.operationId,
        execution.physicalModemId, generation, execution.descriptor, .started input⟩, .error error,
        called, resumed⟩ (.closing lease (.error error))
  | startedNotJournaled {lease answer called resumed} (unjournaled : execution.hasJournal = false) :
      Move execution generation (.admitted lease)
        ⟨.pause .startedNotJournaled, answer, called, resumed⟩ (.journaled lease)
  | attempted {lease completion called resumed} :
      Move execution generation (.journaled lease) ⟨.execute ⟨execution.operationId, generation, 1⟩,
        .ok completion, called, resumed⟩ (Stage.afterExecute execution lease true
          (classified execution generation execution.descriptor.kind resumed completion))
  | attemptRejected {lease error called resumed} :
      Move execution generation (.journaled lease) ⟨.execute ⟨execution.operationId, generation, 1⟩,
        .error error, called, resumed⟩ (.executed lease (.error error))
  | retried {lease completion called resumed} :
      Move execution generation (.retrying lease) ⟨.execute ⟨execution.operationId, generation, 2⟩,
        .ok completion, called, resumed⟩ (.executed lease
          (.ok (classified execution generation execution.descriptor.kind resumed completion)))
  | retryRejected {lease error called resumed} :
      Move execution generation (.retrying lease) ⟨.execute ⟨execution.operationId, generation, 2⟩,
        .error error, called, resumed⟩ (.executed lease (.error error))
  | executed {lease result answer called resumed} :
      Move execution generation (.executed lease (.ok result))
        ⟨.pause .executeWithRetry, answer, called, resumed⟩
        (Stage.afterAttempts execution lease result)
  | executeFailed {lease error answer called resumed} :
      Move execution generation (.executed lease (.error error))
        ⟨.pause .executeWithRetry, answer, called, resumed⟩ (.closing lease (.error error))
  | observed {lease result completion called resumed} :
      Move execution generation (.observing lease result)
        ⟨.readback ⟨execution.operationId, generation, 1⟩, .ok completion, called, resumed⟩
        (Stage.afterReadback execution generation lease result
          (classified execution generation .read resumed completion))
  | readbackRejected {lease result error called resumed} :
      Move execution generation (.observing lease result)
        ⟨.readback ⟨execution.operationId, generation, 1⟩, .error error, called, resumed⟩
        (.hooked lease (.error error))
  | rolledBack {lease result completion called resumed} (present : execution.hasRollback = true) :
      Move execution generation (.rollingBack lease result)
        ⟨.rollback ⟨execution.operationId, generation, 1⟩, .ok completion, called, resumed⟩
        (.hooked lease (.ok result))
  | rollbackRejected {lease result error called resumed} (present : execution.hasRollback = true) :
      Move execution generation (.rollingBack lease result)
        ⟨.rollback ⟨execution.operationId, generation, 1⟩, .error error, called, resumed⟩
        (.hooked lease (.error error))
  | rollbackMissing {lease result answer called resumed} (missing : execution.hasRollback = false) :
      Move execution generation (.rollingBack lease result)
        ⟨.pause .rollbackMissing, answer, called, resumed⟩ (.hooked lease (.ok result))
  | hooked {lease withHooks answer called resumed} :
      Move execution generation (.hooked lease (.ok withHooks))
        ⟨.pause .runCompletionHooks, answer, called, resumed⟩ (.settled lease withHooks)
  | hooksFailed {lease error answer called resumed} :
      Move execution generation (.hooked lease (.error error))
        ⟨.pause .runCompletionHooks, answer, called, resumed⟩ (.closing lease (.error error))
  | completed {lease withHooks answer called resumed} :
      Move execution generation (.settled lease withHooks) ⟨.record ⟨execution.operationId,
        execution.physicalModemId, generation, execution.descriptor, .completed withHooks⟩,
        .ok answer, called, resumed⟩ (.closing lease (.ok withHooks))
  | completedRejected {lease withHooks error called resumed} :
      Move execution generation (.settled lease withHooks) ⟨.record ⟨execution.operationId,
        execution.physicalModemId, generation, execution.descriptor, .completed withHooks⟩,
        .error error, called, resumed⟩ (.closing lease (.error error))
  | completedNotJournaled {lease withHooks answer called resumed} :
      Move execution generation (.settled lease withHooks)
        ⟨.pause .completedNotJournaled, answer, called, resumed⟩ (.closing lease (.ok withHooks))
  | released {outcome answer called resumed} :
      Move execution generation (.closing true outcome) ⟨.release, .ok answer, called, resumed⟩
        (.unlocked outcome)
  | releaseRejected {outcome error called resumed} :
      Move execution generation (.closing true outcome) ⟨.release, .error error, called, resumed⟩
        (.unlocked (.error error))
  | noLease {outcome answer called resumed} :
      Move execution generation (.closing false outcome)
        ⟨.pause .releaseAdmission, answer, called, resumed⟩ (.ended outcome)
  | unlocked {outcome answer called resumed} :
      Move execution generation (.unlocked outcome)
        ⟨.pause .releaseAdmission, answer, called, resumed⟩ (.ended outcome)

variable {execution : OperationExecution I O} {generation : DeviceGeneration}

/-- What a stage asks for moves it on. -/
theorem Stage.move {stage : Stage O} {event : EngineEvent I O}
    (next : stage.next execution generation = some event.op) :
    Move execution generation stage event (stage.after execution generation event) := by
  obtain ⟨op, answer, called, resumed⟩ := event
  cases stage with
  | begun =>
    cases next
    rcases answer with error | precondition
    · exact .checkRejected
    · cases precondition
      · exact .satisfied
      · exact .unsatisfied
  | checked =>
    simp only [Stage.next] at next
    split at next
    · cases next
      exact .notRequired
    · split at next
      · cases next
        exact .portMissing
      · cases next
        rcases answer with error | decision
        · exact .acquireRejected
        · cases decision
          · exact .granted
          · exact .notAdmitted
  | admitted =>
    simp only [Stage.next] at next
    split at next
    · cases next
      cases answer
      · exact .startedRejected
      · exact .started
    · next unjournaled =>
      cases next
      exact .startedNotJournaled (eq_false_of_ne_true unjournaled)
  | journaled =>
    cases next
    cases answer
    · exact .attemptRejected
    · exact .attempted
  | retrying =>
    cases next
    cases answer
    · exact .retryRejected
    · exact .retried
  | executed lease outcome =>
    cases next
    cases outcome
    · exact .executeFailed
    · exact .executed
  | observing =>
    cases next
    cases answer
    · exact .readbackRejected
    · exact .observed
  | rollingBack =>
    simp only [Stage.next] at next
    split at next
    · next present =>
      cases next
      cases answer
      · exact .rollbackRejected present
      · exact .rolledBack present
    · next missing =>
      cases next
      exact .rollbackMissing (eq_false_of_ne_true missing)
  | hooked lease outcome =>
    cases next
    cases outcome
    · exact .hooksFailed
    · exact .hooked
  | settled =>
    simp only [Stage.next] at next
    split at next
    · cases next
      cases answer
      · exact .completedRejected
      · exact .completed
    · cases next
      exact .completedNotJournaled
  | closing lease outcome =>
    cases lease
    · cases next
      exact .noLease
    · cases next
      cases answer
      · exact .releaseRejected
      · exact .released
  | unlocked =>
    cases next
    exact .unlocked
  | ended => cases next

/-! ### Ranks -/

/-- How far a stage is. -/
def Stage.rank : Stage O → Nat
  | .begun => 0
  | .checked => 1
  | .admitted _ => 2
  | .journaled _ => 3
  | .retrying _ => 4
  | .executed _ _ => 5
  | .observing _ _ => 6
  | .rollingBack _ _ => 7
  | .hooked _ _ => 8
  | .settled _ _ => 9
  | .closing _ _ => 10
  | .unlocked _ => 11
  | .ended _ => 12

/-- The stage in which a hook is called. -/
def Hook.rank : Hook I O → Option Nat
  | .check _ => some 0
  | .acquire _ => some 1
  | .record ⟨_, _, _, _, .started _⟩ => some 2
  | .execute context => some (if context.attempt = 1 then 3 else 4)
  | .readback _ => some 6
  | .rollback _ => some 7
  | .record ⟨_, _, _, _, .completed _⟩ => some 9
  | .release => some 10
  | .run | .pause _ => none

theorem rank_afterExecute {lease retry : Bool} {result : OperationResult O} :
    4 ≤ (Stage.afterExecute execution lease retry result).rank ∧
      (Stage.afterExecute execution lease retry result).rank ≤ 5 := by
  unfold Stage.afterExecute
  split <;> simp [Stage.rank]

theorem rank_afterAttempts {lease : Bool} {result : OperationResult O} :
    6 ≤ (Stage.afterAttempts execution lease result).rank ∧
      (Stage.afterAttempts execution lease result).rank ≤ 8 := by
  unfold Stage.afterAttempts
  split
  · split <;> simp [Stage.rank]
  · split <;> simp [Stage.rank]
  · simp [Stage.rank]
  · simp [Stage.rank]

theorem rank_afterReadback {lease : Bool} {result readback : OperationResult O} :
    7 ≤ (Stage.afterReadback execution generation lease result readback).rank ∧
      (Stage.afterReadback execution generation lease result readback).rank ≤ 8 := by
  unfold Stage.afterReadback
  split
  · split
    · simp [Stage.rank]
    · split <;> simp [Stage.rank]
  · simp [Stage.rank]
  · simp [Stage.rank]
  · simp [Stage.rank]

theorem Move.rank_lt {stage stage' : Stage O} {event : EngineEvent I O}
    (move : Move execution generation stage event stage') : stage.rank < stage'.rank := by
  cases move with
  | attempted => exact rank_afterExecute.1
  | executed => exact rank_afterAttempts.1
  | observed => exact rank_afterReadback.1
  | _ => simp [Stage.rank]

theorem Move.rank_eq {stage stage' : Stage O} {event : EngineEvent I O} {rank : Nat}
    (move : Move execution generation stage event stage') (isRank : event.op.rank = some rank) :
    stage.rank = rank := by
  cases move <;> simp_all [Hook.rank, Stage.rank]

section Trace

variable [OperationInput I] {begun : EngineState} {history : History I O}

/-- Every call so far was the one that its stage asked for. -/
abbrev Followed (execution : OperationExecution I O) (begun : EngineState)
    (history : History I O) : Prop :=
  Called (Follows execution begun) history

variable {event : EngineEvent I O} {s : EngineState} {hook : Hook I O} {stage stage' : Stage O}
  {result : OperationResult O} {outcome : Except Rejection (OperationResult O)}

theorem Followed.move (followed : Followed execution begun (event :: history)) :
    Move execution (startGeneration execution begun) (stageOf execution begun history) event
      (stageOf execution begun (event :: history)) :=
  Stage.move followed.1

/-- The hooks called so far belong to earlier stages. -/
theorem Followed.rank_lt (followed : Followed execution begun history) (mem : event ∈ history)
    {rank : Nat} (isRank : event.op.rank = some rank) :
    rank < (stageOf execution begun history).rank := by
  induction history with
  | nil => cases mem
  | cons last rest ih =>
    have later := followed.move.rank_lt
    rcases List.mem_cons.mp mem with rfl | mem
    · rw [← followed.move.rank_eq isRank]
      exact later
    · exact (ih followed.2 mem).trans later

/-- A hook is called after those of lower rank only. -/
theorem Follows.rank_lt (follows : Follows execution begun history hook s)
    (followed : Followed execution begun history) (mem : event ∈ history) {earlier rank : Nat}
    (isEarlier : event.op.rank = some earlier) (isRank : hook.rank = some rank) :
    earlier < rank := by
  have move : Move execution (startGeneration execution begun) (stageOf execution begun history)
      ⟨hook, .error ⟨[]⟩, s, s⟩ _ := Stage.move follows
  rw [← move.rank_eq isRank]
  exact followed.rank_lt mem isEarlier

/-! ### Refusals -/

/-- An answer that refuses the invocation. -/
def Refusal : EngineEvent I O → Prop
  | ⟨.check _, .ok (.refused _), _, _⟩ | ⟨.acquire _, .ok (.refused _), _, _⟩
  | ⟨.pause .admissionPortMissing, _, _, _⟩ => True
  | _ => False

/-- Refused by the gate, by the descriptor, by a precondition or by the admission. -/
def Refused (execution : OperationExecution I O) (begun : EngineState) (history : History I O) :
    Prop :=
  (execution.descriptor.kind = .write ∧
      execution.physicalModemId ∈ begun.reconciliationRequired) ∨
    (descriptorRefusalReason execution).isSome = true ∨ ∃ event ∈ history, Refusal event

def Stage.isEnded : Stage O → Bool
  | .ended _ => true
  | _ => false

omit [OperationInput I] in
theorem Move.refusal (move : Move execution generation stage event stage')
    (refusal : Refusal event) : stage'.isEnded = true := by
  cases move <;> first | rfl | exact refusal.elim

/-- An invocation that goes on has not been refused. -/
theorem Followed.unrefused (followed : Followed execution begun history)
    (goesOn : (stageOf execution begun history).isEnded = false) :
    ¬ Refused execution begun history := by
  induction history with
  | nil =>
    rw [stageOf, firstStage] at goesOn
    rintro (closed | refused | ⟨event, mem, -⟩)
    · rw [if_pos closed] at goesOn
      cases goesOn
    · obtain ⟨reason, isReason⟩ := Option.isSome_iff_exists.mp refused
      split at goesOn
      · cases goesOn
      · rw [isReason] at goesOn
        cases goesOn
    · cases mem
  | cons last rest ih =>
    have before : (stageOf execution begun rest).isEnded = false := by
      cases stage : stageOf execution begun rest with
      | ended =>
        have next := followed.1
        rw [Follows, stage] at next
        cases next
      | _ => rfl
    have unrefused := ih followed.2 before
    rintro (closed | refused | ⟨event, mem, refusal⟩)
    · exact unrefused (.inl closed)
    · exact unrefused (.inr (.inl refused))
    · rcases List.mem_cons.mp mem with rfl | mem
      · rw [followed.move.refusal refusal] at goesOn
        cases goesOn
      · exact unrefused (.inr (.inr ⟨event, mem, refusal⟩))

/-! ### The started record -/

/-- The hook has answered with a value. -/
def Resolved (event : EngineEvent I O) : Prop := ∃ value, event.answer = .ok value

def Hook.isStarted : Hook I O → Bool
  | .record ⟨_, _, _, _, .started _⟩ => true
  | _ => false

def Hook.isExecute : Hook I O → Bool
  | .execute _ => true
  | _ => false

/-- The result in a completed record. -/
def Hook.completedResult : Hook I O → Option (OperationResult O)
  | .record ⟨_, _, _, _, .completed result⟩ => some result
  | _ => none

def Hook.isRelease : Hook I O → Bool
  | .release => true
  | _ => false

omit [OperationInput I] in
theorem Hook.rank_started (isStarted : hook.isStarted = true) : hook.rank = some 2 := by
  unfold Hook.isStarted at isStarted
  split at isStarted
  · rfl
  · cases isStarted

/-- The journal knows that the invocation has started. -/
structure StartedRecorded (execution : OperationExecution I O) (history : History I O) : Prop where
  written : execution.hasJournal = true →
    ∃ event ∈ history, event.op.isStarted = true ∧ Resolved event
  resolved : ∀ event ∈ history, event.op.isStarted = true → Resolved event

omit [OperationInput I] in
/-- An invocation is journaled by its started record, or has no journal. -/
theorem Move.journaled {lease : Bool} (move : Move execution generation stage event stage')
    (isJournaled : stage' = .journaled lease) :
    stage.rank = 2 ∧ ((event.op.isStarted = true ∧ Resolved event) ∨
      event.op.isStarted = false ∧ execution.hasJournal = false) := by
  cases move with
  | started => exact ⟨rfl, .inl ⟨rfl, _, rfl⟩⟩
  | startedNotJournaled unjournaled => exact ⟨rfl, .inr ⟨rfl, unjournaled⟩⟩
  | attempted => exact absurd rank_afterExecute.1 (by rw [isJournaled]; simp [Stage.rank])
  | executed => exact absurd rank_afterAttempts.1 (by rw [isJournaled]; simp [Stage.rank])
  | observed => exact absurd rank_afterReadback.1 (by rw [isJournaled]; simp [Stage.rank])
  | _ => cases isJournaled

omit [OperationInput I] in
theorem Hook.rank_execute (isExecute : hook.isExecute = true) :
    ∃ rank, hook.rank = some rank ∧ 3 ≤ rank := by
  cases hook with
  | execute =>
    rw [Hook.rank]
    split
    · exact ⟨3, rfl, le_rfl⟩
    · exact ⟨4, rfl, by simp⟩
  | _ => cases isExecute

theorem rank_firstStage (execution : OperationExecution I O) (begun : EngineState) :
    (firstStage execution begun).rank = 0 ∨ (firstStage execution begun).rank = 12 := by
  unfold firstStage
  dsimp only
  split
  · exact .inr rfl
  · split
    · exact .inr rfl
    · exact .inl rfl

/-- A stage in the middle has a last call that led to it. -/
theorem Followed.last (rank : Nat) (here : (stageOf execution begun history).rank = rank)
    (isLater : 0 < rank) (isEarlier : rank < 12) : ∃ last rest, history = last :: rest := by
  cases history with
  | nil =>
    rw [stageOf] at here
    rcases rank_firstStage execution begun with first | first <;> omega
  | cons last rest => exact ⟨last, rest, rfl⟩

theorem Followed.journaled (followed : Followed execution begun history) {lease : Bool}
    (here : stageOf execution begun history = .journaled lease) :
    StartedRecorded execution history := by
  obtain ⟨last, rest, rfl⟩ := Followed.last 3 (by rw [here]; rfl) (by simp) (by simp)
  obtain ⟨isSecond, started⟩ := followed.move.journaled here
  have new : ∀ event ∈ rest, event.op.isStarted ≠ true := by
    intro event mem isStarted
    have earlier := Followed.rank_lt followed.2 mem (Hook.rank_started isStarted)
    omega
  constructor
  · intro journal
    rcases started with ⟨isStarted, resolved⟩ | ⟨-, unjournaled⟩
    · exact ⟨last, List.mem_cons_self, isStarted, resolved⟩
    · simp [unjournaled] at journal
  · intro event mem isStarted
    rcases List.mem_cons.mp mem with rfl | mem
    · rcases started with ⟨-, resolved⟩ | ⟨notStarted, -⟩
      · exact resolved
      · simp [notStarted] at isStarted
    · exact absurd isStarted (new event mem)

/-! ### The second attempt -/

/-- An attempt of an idempotent read that has definitely failed. -/
def Retried (execution : OperationExecution I O) (generation : DeviceGeneration) :
    EngineEvent I O → Prop
  | ⟨.execute _, .ok completion, _, resumed⟩ =>
    execution.descriptor.kind = .read ∧ execution.descriptor.retryClass = .idempotentRead ∧
      ∃ reason failedIn, classified execution generation execution.descriptor.kind resumed
        completion = .failed reason failedIn
  | _ => False

omit [OperationInput I] in
theorem Move.retrying {lease : Bool} (move : Move execution generation stage event stage')
    (isRetrying : stage' = .retrying lease) :
    stage = .journaled lease ∧ event.op.isExecute = true ∧ Retried execution generation event := by
  cases move with
  | @attempted lease completion called resumed =>
    unfold Stage.afterExecute at isRetrying
    split at isRetrying
    · next retry =>
      cases isRetrying
      rw [Bool.true_and] at retry
      refine ⟨rfl, rfl, ?_⟩
      unfold canAutoRetry at retry
      split at retry
      · next reason failedIn failed =>
        simp only [decide_eq_true_eq] at retry
        refine ⟨?_, retry.2.2, reason, failedIn, failed⟩
        rw [OperationDescriptor.kind, retry.1]
      · cases retry
    · cases isRetrying
  | executed => exact absurd rank_afterAttempts.1 (by rw [isRetrying]; simp [Stage.rank])
  | observed => exact absurd rank_afterReadback.1 (by rw [isRetrying]; simp [Stage.rank])
  | _ => cases isRetrying

theorem Followed.retrying (followed : Followed execution begun history) {lease : Bool}
    (here : stageOf execution begun history = .retrying lease) :
    ∃ first rest, history = first :: rest ∧ stageOf execution begun rest = .journaled lease ∧
      first.op.isExecute = true ∧ Retried execution (startGeneration execution begun) first := by
  obtain ⟨first, rest, rfl⟩ := Followed.last 4 (by rw [here]; rfl) (by simp) (by simp)
  exact ⟨first, rest, rfl, followed.move.retrying here⟩

/-! ### The lease -/

/-- The admission port has granted a lease. -/
def Grant : EngineEvent I O → Prop
  | ⟨.acquire _, .ok .admitted, _, _⟩ => True
  | _ => False

/-- The invocation has been granted a lease. -/
def Granted (history : History I O) : Prop := ∃ event ∈ history, Grant event

/-- Whether a stage of an admitted invocation holds a lease. -/
def Stage.lease : Stage O → Option Bool
  | .admitted lease | .journaled lease | .retrying lease | .executed lease _ | .observing lease _
  | .rollingBack lease _ | .hooked lease _ | .settled lease _ | .closing lease _ => some lease
  | .begun | .checked | .unlocked _ | .ended _ => none

omit [OperationInput I] in
@[simp] theorem lease_afterExecute {lease retry : Bool} :
    (Stage.afterExecute execution lease retry result).lease = some lease := by
  unfold Stage.afterExecute
  split <;> rfl

omit [OperationInput I] in
@[simp] theorem lease_afterAttempts {lease : Bool} :
    (Stage.afterAttempts execution lease result).lease = some lease := by
  unfold Stage.afterAttempts
  split
  · split <;> rfl
  · split <;> rfl
  · rfl
  · rfl

omit [OperationInput I] in
@[simp] theorem lease_afterReadback {lease : Bool} {result readback : OperationResult O} :
    (Stage.afterReadback execution generation lease result readback).lease = some lease := by
  unfold Stage.afterReadback
  split
  · split
    · rfl
    · split <;> rfl
  · rfl
  · rfl
  · rfl

omit [OperationInput I] in
/-- A lease is held from the admission on. -/
theorem Move.lease {lease : Bool} (move : Move execution generation stage event stage')
    (holds : stage'.lease = some lease) : (stage.lease = some lease ∧ ¬ Grant event) ∨
      (stage = .checked ∧ (Grant event ↔ lease = true)) := by
  cases move with
  | notRequired | granted =>
    cases holds
    exact .inr ⟨rfl, by simp [Grant]⟩
  | attempted =>
    rw [lease_afterExecute] at holds
    exact .inl ⟨holds, id⟩
  | executed =>
    rw [lease_afterAttempts] at holds
    exact .inl ⟨holds, id⟩
  | observed =>
    rw [lease_afterReadback] at holds
    exact .inl ⟨holds, id⟩
  | _ => first | exact .inl ⟨holds, id⟩ | cases holds

omit [OperationInput I] in
theorem Grant.rank (grant : Grant event) : event.op.rank = some 1 := by
  unfold Grant at grant
  split at grant
  · rfl
  · exact grant.elim

/-- No lease is granted before the admission. -/
theorem Followed.ungranted (followed : Followed execution begun history)
    (here : (stageOf execution begun history).rank ≤ 1) : ¬ Granted history := by
  rintro ⟨event, mem, grant⟩
  have later := followed.rank_lt mem grant.rank
  omega

theorem Followed.granted (followed : Followed execution begun history) {lease : Bool}
    (holds : (stageOf execution begun history).lease = some lease) :
    Granted history ↔ lease = true := by
  induction history with
  | nil =>
    rw [stageOf, firstStage] at holds
    split at holds
    · cases holds
    · split at holds <;> cases holds
  | cons last rest ih =>
    have split : Granted (last :: rest) ↔ Grant last ∨ Granted rest := by
      simp [Granted]
    rw [split]
    rcases followed.move.lease holds with ⟨held, other⟩ | ⟨checked, grant⟩
    · rw [or_iff_right other]
      exact ih followed.2 held
    · rw [or_iff_left (Followed.ungranted followed.2 (by rw [checked]; simp [Stage.rank]))]
      exact grant

/-! ### The release -/

/-- How often a kind of hook has been called. -/
def callsOf (kind : Hook I O → Bool) (history : History I O) : Nat :=
  history.countP fun event => kind event.op

variable {kind : Hook I O → Bool}

omit [OperationInput I] in
theorem callsOf_cons :
    callsOf kind (event :: history) = callsOf kind history + if kind event.op then 1 else 0 :=
  List.countP_cons

omit [OperationInput I] in
theorem callsOf_eq_zero (none : ∀ event ∈ history, kind event.op = false) :
    callsOf kind history = 0 := by
  refine List.countP_eq_zero.mpr fun event mem => ?_
  simp [none event mem]

omit [OperationInput I] in
theorem Hook.rank_release (isRelease : hook.isRelease = true) : hook.rank = some 10 := by
  cases hook with
  | release => rfl
  | _ => cases isRelease

/-- Nothing is released before everything else has been done. -/
theorem Followed.unreleased (followed : Followed execution begun history)
    (here : (stageOf execution begun history).rank ≤ 10) : callsOf Hook.isRelease history = 0 := by
  refine callsOf_eq_zero fun event mem => eq_false_of_ne_true fun isRelease => ?_
  have later := followed.rank_lt mem (Hook.rank_release isRelease)
  omega

omit [OperationInput I] in
theorem Move.toUnlocked (move : Move execution generation stage event stage')
    (isUnlocked : stage' = .unlocked outcome) :
    stage.lease = some true ∧ stage.rank = 10 ∧ event.op.isRelease = true ∧ ¬ Grant event := by
  cases move with
  | released | releaseRejected => exact ⟨rfl, rfl, rfl, id⟩
  | attempted => exact absurd rank_afterExecute.2 (by rw [isUnlocked]; simp [Stage.rank])
  | executed => exact absurd rank_afterAttempts.2 (by rw [isUnlocked]; simp [Stage.rank])
  | observed => exact absurd rank_afterReadback.2 (by rw [isUnlocked]; simp [Stage.rank])
  | _ => cases isUnlocked

omit [OperationInput I] in
/-- An invocation ends refused or rejected before its admission, without a lease, or after it has
released its lease. -/
theorem Move.toEnded (move : Move execution generation stage event stage')
    (isEnded : stage' = .ended outcome) :
    (stage.rank ≤ 1 ∨ stage.lease = some false ∧ stage.rank ≤ 10 ∨
      ∃ outcome, stage = .unlocked outcome) ∧ event.op.isRelease = false ∧ ¬ Grant event := by
  cases move with
  | unsatisfied | checkRejected => exact ⟨.inl (by simp [Stage.rank]), rfl, id⟩
  | portMissing | notAdmitted | acquireRejected => exact ⟨.inl le_rfl, rfl, id⟩
  | noLease => exact ⟨.inr (.inl ⟨rfl, le_rfl⟩), rfl, id⟩
  | unlocked => exact ⟨.inr (.inr ⟨_, rfl⟩), rfl, id⟩
  | attempted => exact absurd rank_afterExecute.2 (by rw [isEnded]; simp [Stage.rank])
  | executed => exact absurd rank_afterAttempts.2 (by rw [isEnded]; simp [Stage.rank])
  | observed => exact absurd rank_afterReadback.2 (by rw [isEnded]; simp [Stage.rank])
  | _ => cases isEnded

omit [OperationInput I] in
theorem granted_cons (other : ¬ Grant event) : Granted (event :: history) ↔ Granted history := by
  simp [Granted, other]

/-- One lease, one release. -/
structure Released (history : History I O) : Prop where
  once : Granted history → callsOf Hook.isRelease history = 1
  never : ¬ Granted history → callsOf Hook.isRelease history = 0

theorem Followed.unlocked (followed : Followed execution begun history)
    (here : stageOf execution begun history = .unlocked outcome) : Released history := by
  obtain ⟨last, rest, rfl⟩ := Followed.last 11 (by rw [here]; rfl) (by simp) (by simp)
  obtain ⟨holds, isLast, isRelease, other⟩ := followed.move.toUnlocked here
  have granted := (Followed.granted followed.2 holds).mpr rfl
  constructor
  · intro _
    rw [callsOf_cons, Followed.unreleased followed.2 isLast.le, isRelease]
    rfl
  · intro ungranted
    exact absurd ((granted_cons other).mpr granted) ungranted

theorem Followed.ended (followed : Followed execution begun history)
    (here : stageOf execution begun history = .ended outcome) : Released history := by
  cases history with
  | nil =>
    constructor
    · rintro ⟨event, mem, -⟩
      cases mem
    · exact fun _ => rfl
  | cons last rest =>
    obtain ⟨before, notRelease, other⟩ := followed.move.toEnded here
    have same : callsOf Hook.isRelease (last :: rest) = callsOf Hook.isRelease rest := by
      rw [callsOf_cons, notRelease]
      rfl
    have released : Released rest := by
      rcases before with early | ⟨holds, isEarlier⟩ | ⟨outcome, unlocked⟩
      · have ungranted := Followed.ungranted followed.2 early
        exact ⟨fun granted => absurd granted ungranted,
          fun _ => Followed.unreleased followed.2 (by omega)⟩
      · have ungranted : ¬ Granted rest := fun granted =>
          Bool.false_ne_true ((Followed.granted followed.2 holds).mp granted)
        exact ⟨fun granted => absurd granted ungranted,
          fun _ => Followed.unreleased followed.2 isEarlier⟩
      · exact Followed.unlocked followed.2 unlocked
    constructor
    · intro granted
      rw [same]
      exact released.once ((granted_cons other).mp granted)
    · intro ungranted
      rw [same]
      exact released.never fun granted => ungranted ((granted_cons other).mpr granted)

/-! ### The completed record -/

/-- What is returned once a stage's cleanup has gone well. -/
def Stage.returned : Stage O → Option (OperationResult O)
  | .closing _ outcome | .unlocked outcome | .ended outcome => outcome.toOption
  | _ => none

omit [OperationInput I] in
theorem Hook.rank_completed (isCompleted : hook.completedResult = some result) :
    hook.rank = some 9 := by
  unfold Hook.completedResult at isCompleted
  split at isCompleted
  · rfl
  · cases isCompleted

omit [OperationInput I] in
theorem returned_eq_none {stage : Stage O} (isEarlier : stage.rank ≤ 9) : stage.returned = none := by
  cases stage with
  | closing | unlocked | ended => simp [Stage.rank] at isEarlier
  | _ => rfl

omit [OperationInput I] in
/-- What is returned is what has been recorded, if anything has. -/
theorem Move.returned (move : Move execution generation stage event stage')
    (isReturned : stage'.returned = some result) : (stage.returned = some result ∨ stage.rank ≤ 9) ∧
      ∀ recorded, event.op.completedResult = some recorded → recorded = result := by
  cases move with
  | completed =>
    cases isReturned
    refine ⟨.inr (by simp [Stage.rank]), ?_⟩
    rintro recorded ⟨⟩
    rfl
  | attempted =>
    rw [returned_eq_none (rank_afterExecute.2.trans (by simp))] at isReturned
    cases isReturned
  | executed =>
    rw [returned_eq_none (rank_afterAttempts.2.trans (by simp))] at isReturned
    cases isReturned
  | observed =>
    rw [returned_eq_none (rank_afterReadback.2.trans (by simp))] at isReturned
    cases isReturned
  | released | noLease | unlocked => exact ⟨.inl isReturned, nofun⟩
  | unsatisfied | portMissing | notAdmitted | completedNotJournaled =>
    exact ⟨.inr (by simp [Stage.rank]), nofun⟩
  | _ => cases isReturned

theorem Followed.returned (followed : Followed execution begun history)
    (isReturned : (stageOf execution begun history).returned = some result) :
    ∀ event ∈ history, ∀ recorded, event.op.completedResult = some recorded →
      recorded = result := by
  induction history with
  | nil => exact fun event mem => by cases mem
  | cons last rest ih =>
    obtain ⟨before, new⟩ := followed.move.returned isReturned
    intro event mem recorded isCompleted
    rcases List.mem_cons.mp mem with rfl | mem
    · exact new recorded isCompleted
    · rcases before with same | isEarlier
      · exact ih followed.2 same event mem recorded isCompleted
      · have earlier := Followed.rank_lt followed.2 mem (Hook.rank_completed isCompleted)
        omega

/-! ### The grammar -/

/-- `execute`, `readback` and `rollback` reach the device. -/
def Hook.reachesDevice : Hook I O → Bool
  | .execute _ | .readback _ | .rollback _ => true
  | _ => false

/-- What a refused invocation does not call. -/
def Hook.isEffect : Hook I O → Bool
  | .record _ => true
  | hook => hook.reachesDevice

def Hook.isPause : Hook I O → Bool
  | .pause _ => true
  | _ => false

def Hook.isCompleted (hook : Hook I O) : Bool := hook.completedResult.isSome

/-- What holds of a call that comes after the answers `earlier`. -/
structure LawfulCall (execution : OperationExecution I O) (begun : EngineState)
    (earlier : History I O) (hook : Hook I O) : Prop where
  unrefused : hook.isEffect = true → ¬ Refused execution begun earlier
  started : hook.isExecute = true → StartedRecorded execution earlier
  /-- The first attempt, or the one right after an attempt that may be retried. -/
  attempt : hook.isExecute = true → (∀ event ∈ earlier, event.op.isExecute = false) ∨
    ∃ first rest, earlier = first :: rest ∧ first.op.isExecute = true ∧
      Retried execution (startGeneration execution begun) first ∧
        ∀ event ∈ rest, event.op.isExecute = false
  completedOnce : hook.isCompleted = true → ∀ event ∈ earlier, event.op.isCompleted = false
  completedLast : hook.reachesDevice = true → ∀ event ∈ earlier, event.op.isCompleted = false
  releaseGranted : hook.isRelease = true → Granted earlier
  releasedLast : hook.isPause = false → ∀ event ∈ earlier, event.op.isRelease = false

/-- What holds of all answers so far. -/
structure LawfulTrace (execution : OperationExecution I O) (begun : EngineState)
    (history : History I O) : Prop where
  refused : Refused execution begun history → ∀ event ∈ history, event.op.isEffect = false
  attempts : callsOf Hook.isExecute history ≤ 2
  attemptsOfWrite : execution.descriptor.kind = .write → callsOf Hook.isExecute history ≤ 1
  completions : callsOf Hook.isCompleted history ≤ 1
  releases : callsOf Hook.isRelease history ≤ 1

/-- What holds when the invocation has returned or rejected. -/
structure LawfulEnd (history : History I O) (outcome : Except Rejection (OperationResult O)) :
    Prop where
  released : Released history
  recorded : ∀ event ∈ history, ∀ recorded, event.op.completedResult = some recorded →
    ∀ result, outcome = .ok result → recorded = result

omit [OperationInput I] in
theorem Hook.rank_effect (isEffect : hook.isEffect = true) :
    ∃ rank, hook.rank = some rank ∧ 2 ≤ rank := by
  cases hook with
  | record event =>
    obtain ⟨_, _, _, _, phase⟩ := event
    cases phase
    · exact ⟨2, rfl, le_rfl⟩
    · exact ⟨9, rfl, by simp⟩
  | execute context =>
    have isExecute : (Hook.execute context : Hook I O).isExecute = true := rfl
    obtain ⟨rank, isRank, late⟩ := Hook.rank_execute isExecute
    exact ⟨rank, isRank, by omega⟩
  | readback => exact ⟨6, rfl, by simp⟩
  | rollback => exact ⟨7, rfl, by simp⟩
  | _ => cases isEffect

omit [OperationInput I] in
theorem Hook.rank_reachesDevice (reachesDevice : hook.reachesDevice = true) :
    ∃ rank, hook.rank = some rank ∧ rank ≤ 7 := by
  cases hook with
  | execute =>
    rw [Hook.rank]
    split
    · exact ⟨3, rfl, by simp⟩
    · exact ⟨4, rfl, by simp⟩
  | readback => exact ⟨6, rfl, by simp⟩
  | rollback => exact ⟨7, rfl, le_rfl⟩
  | _ => cases reachesDevice

/-- Before a hook, none of its rank or a later one has been called. -/
theorem Follows.new (follows : Follows execution begun history hook s)
    (followed : Followed execution begun history) {rank : Nat} (isRank : hook.rank = some rank)
    {later : Nat} (isLater : event.op.rank = some later) (le : rank ≤ later) : event ∉ history := by
  intro mem
  have lt := follows.rank_lt followed mem isLater isRank
  omega

omit [OperationInput I] in
theorem Stage.next_of_isExecute {stage : Stage O}
    (next : stage.next execution generation = some hook) (isExecute : hook.isExecute = true) :
    (∃ lease, stage = .journaled lease) ∨ ∃ lease, stage = .retrying lease := by
  have move : Move execution generation stage ⟨hook, .error ⟨[]⟩, ⟨fun _ => 0, ∅⟩,
    ⟨fun _ => 0, ∅⟩⟩ _ := Stage.move next
  cases move with
  | attemptRejected => exact .inl ⟨_, rfl⟩
  | retryRejected => exact .inr ⟨_, rfl⟩
  | _ => cases isExecute

theorem Followed.unattempted (followed : Followed execution begun history) {lease : Bool}
    (here : stageOf execution begun history = .journaled lease) :
    ∀ event ∈ history, event.op.isExecute = false := by
  intro event mem
  by_contra isExecute
  obtain ⟨rank, isRank, late⟩ := Hook.rank_execute (eq_true_of_ne_false isExecute)
  have earlier := followed.rank_lt mem isRank
  rw [here, Stage.rank] at earlier
  omega

omit [OperationInput I] in
theorem StartedRecorded.cons (recorded : StartedRecorded execution history)
    (other : event.op.isStarted = false) : StartedRecorded execution (event :: history) := by
  constructor
  · intro journal
    obtain ⟨started, mem, isStarted⟩ := recorded.written journal
    exact ⟨started, List.mem_cons_of_mem _ mem, isStarted⟩
  · intro started mem isStarted
    rcases List.mem_cons.mp mem with rfl | mem
    · rw [other] at isStarted
      cases isStarted
    · exact recorded.resolved started mem isStarted

theorem Follows.started (follows : Follows execution begun history hook s)
    (followed : Followed execution begun history) (isExecute : hook.isExecute = true) :
    StartedRecorded execution history := by
  rcases Stage.next_of_isExecute follows isExecute with ⟨lease, here⟩ | ⟨lease, here⟩
  · exact followed.journaled here
  · obtain ⟨first, rest, rfl, before, isAttempt, -⟩ := followed.retrying here
    refine (Followed.journaled followed.2 before).cons ?_
    cases op : first.op with
    | execute => rfl
    | _ => simp [op, Hook.isExecute] at isAttempt

theorem Follows.attempt (follows : Follows execution begun history hook s)
    (followed : Followed execution begun history) (isExecute : hook.isExecute = true) :
    (∀ event ∈ history, event.op.isExecute = false) ∨
      ∃ first rest, history = first :: rest ∧ first.op.isExecute = true ∧
        Retried execution (startGeneration execution begun) first ∧
          ∀ event ∈ rest, event.op.isExecute = false := by
  rcases Stage.next_of_isExecute follows isExecute with ⟨lease, here⟩ | ⟨lease, here⟩
  · exact .inl (followed.unattempted here)
  · obtain ⟨first, rest, rfl, before, isAttempt, retried⟩ := followed.retrying here
    exact .inr ⟨first, rest, rfl, isAttempt, retried, Followed.unattempted followed.2 before⟩

theorem Follows.uncompleted (follows : Follows execution begun history hook s)
    (followed : Followed execution begun history) {rank : Nat} (isRank : hook.rank = some rank)
    (early : rank ≤ 9) : ∀ event ∈ history, event.op.isCompleted = false := by
  intro event mem
  by_contra isCompleted
  obtain ⟨result, isCompleted⟩ := Option.isSome_iff_exists.mp (eq_true_of_ne_false isCompleted)
  exact follows.new followed isRank (Hook.rank_completed isCompleted) early mem

theorem Follows.releaseGranted (follows : Follows execution begun history .release s)
    (followed : Followed execution begun history) : Granted history := by
  have move : Move execution (startGeneration execution begun) (stageOf execution begun history)
      ⟨.release, .error ⟨[]⟩, s, s⟩ _ := Stage.move follows
  cases stage : stageOf execution begun history with
  | closing =>
    rw [stage] at move
    cases move
    exact (followed.granted (by rw [stage]; rfl)).mpr rfl
  | _ =>
    rw [stage] at move
    cases move

theorem Follows.releasedLast (follows : Follows execution begun history hook s)
    (followed : Followed execution begun history) (isHook : hook.isPause = false) :
    ∀ event ∈ history, event.op.isRelease = false := by
  intro event mem
  by_contra isRelease
  have late := followed.rank_lt mem (Hook.rank_release (eq_true_of_ne_false isRelease))
  rw [Follows] at follows
  cases stage : stageOf execution begun history with
  | unlocked =>
    rw [stage] at follows
    cases follows
    cases isHook
  | ended =>
    rw [stage] at follows
    cases follows
  | _ => simp [stage, Stage.rank] at late

theorem Follows.lawful {hook : Hook I O} {s : EngineState}
    (follows : Follows execution begun history hook s)
    (followed : Followed execution begun history) : LawfulCall execution begun history hook where
  unrefused := by
    intro isEffect
    refine followed.unrefused ?_
    cases stage : stageOf execution begun history with
    | ended =>
      rw [Follows, stage] at follows
      cases follows
    | _ => rfl
  started := follows.started followed
  attempt := follows.attempt followed
  completedOnce := by
    intro isCompleted
    obtain ⟨result, isCompleted⟩ := Option.isSome_iff_exists.mp isCompleted
    exact follows.uncompleted followed (Hook.rank_completed isCompleted) le_rfl
  completedLast := by
    intro reachesDevice
    obtain ⟨rank, isRank, early⟩ := Hook.rank_reachesDevice reachesDevice
    exact follows.uncompleted followed isRank (by omega)
  releaseGranted := by
    intro isRelease
    cases hook with
    | release => exact follows.releaseGranted followed
    | _ => cases isRelease
  releasedLast := follows.releasedLast followed

omit [OperationInput I] in
theorem Move.early (move : Move execution generation stage event stage') (refusal : Refusal event) :
    stage.rank ≤ 1 ∧ event.op.isEffect = false := by
  cases move <;> first | exact refusal.elim | exact ⟨by simp [Stage.rank], rfl⟩

/-- A refusal comes before every effect, and none comes after it. -/
theorem Followed.refused (followed : Followed execution begun history)
    (refused : Refused execution begun history) : ∀ event ∈ history, event.op.isEffect = false := by
  induction history with
  | nil => exact fun event mem => by cases mem
  | cons last rest ih =>
    intro event mem
    by_cases before : Refused execution begun rest
    · rcases List.mem_cons.mp mem with rfl | mem
      · exact eq_false_of_ne_true fun isEffect =>
          (Follows.lawful followed.1 followed.2).unrefused isEffect before
      · exact ih followed.2 before event mem
    · have refusal : Refusal last := by
        rcases refused with closed | descriptor | ⟨refusing, mem, refusal⟩
        · exact absurd (.inl closed) before
        · exact absurd (.inr (.inl descriptor)) before
        · rcases List.mem_cons.mp mem with rfl | mem
          · exact refusal
          · exact absurd (.inr (.inr ⟨refusing, mem, refusal⟩)) before
      obtain ⟨early, notEffect⟩ := followed.move.early refusal
      rcases List.mem_cons.mp mem with rfl | mem
      · exact notEffect
      · by_contra isEffect
        obtain ⟨rank, isRank, late⟩ := Hook.rank_effect (eq_true_of_ne_false isEffect)
        have earlier := Followed.rank_lt followed.2 mem isRank
        omega

omit [OperationInput I] in
theorem Retried.isRead (retried : Retried execution generation event) :
    execution.descriptor.kind = .read := by
  unfold Retried at retried
  split at retried
  · exact retried.1
  · exact retried.elim

theorem Followed.attempts (followed : Followed execution begun history) :
    callsOf Hook.isExecute history ≤ 1 ∨
      callsOf Hook.isExecute history = 2 ∧ execution.descriptor.kind = .read := by
  induction history with
  | nil => exact .inl (Nat.zero_le 1)
  | cons last rest ih =>
    rw [callsOf_cons]
    by_cases isExecute : last.op.isExecute = true
    · rw [if_pos isExecute]
      rcases (Follows.lawful followed.1 followed.2).attempt isExecute with
        none | ⟨first, before, rfl, isFirst, retried, none⟩
      · rw [callsOf_eq_zero none]
        exact .inl le_rfl
      · rw [callsOf_cons, if_pos isFirst, callsOf_eq_zero none]
        exact .inr ⟨rfl, retried.isRead⟩
    · rw [if_neg isExecute]
      exact ih followed.2

/-- A kind of hook that is not called again is called once at most. -/
theorem Followed.once (followed : Followed execution begun history)
    (new : ∀ earlier hook, LawfulCall execution begun earlier hook → kind hook = true →
      ∀ event ∈ earlier, kind event.op = false) : callsOf kind history ≤ 1 := by
  induction history with
  | nil => exact Nat.zero_le 1
  | cons last rest ih =>
    rw [callsOf_cons]
    by_cases isKind : kind last.op = true
    · rw [if_pos isKind, callsOf_eq_zero (new _ _ (Follows.lawful followed.1 followed.2) isKind)]
    · rw [if_neg isKind]
      exact ih followed.2

theorem Followed.lawful (followed : Followed execution begun history) :
    LawfulTrace execution begun history where
  refused := followed.refused
  attempts := by
    rcases followed.attempts with once | ⟨twice, -⟩
    · omega
    · omega
  attemptsOfWrite := by
    intro isWrite
    rcases followed.attempts with once | ⟨-, isRead⟩
    · exact once
    · rw [isWrite] at isRead
      cases isRead
  completions := followed.once fun _ _ lawful => lawful.completedOnce
  releases := by
    refine followed.once fun earlier hook lawful isRelease => lawful.releasedLast ?_
    cases hook with
    | release => rfl
    | _ => cases isRelease

theorem Followed.lawfulEnd (followed : Followed execution begun history)
    {outcome : Except Rejection (OperationResult O)}
    (here : stageOf execution begun history = .ended outcome) : LawfulEnd history outcome where
  released := followed.ended here
  recorded := by
    intro event mem recorded isCompleted result isResult
    refine followed.returned ?_ event mem recorded isCompleted
    rw [here, isResult]
    rfl

/-- The grammar of an invocation's hooks, whatever they answer: it holds before each call and at
each end. -/
theorem invokeNow_trace (execution : OperationExecution I O) (begun : EngineState) :
    (invokeNow execution).Always
      (fun history hook _ => LawfulTrace execution begun history ∧
        LawfulCall execution begun history hook)
      (fun history outcome _ => LawfulTrace execution begun history ∧ LawfulEnd history outcome)
      begun [] := by
  refine ((invokeNow_follows execution begun).withCalled trivial).mono ?_ ?_
  · rintro history hook s ⟨followed, follows⟩
    exact ⟨Followed.lawful followed, follows.lawful followed⟩
  · rintro history outcome s ⟨followed, here⟩
    exact ⟨Followed.lawful followed, Followed.lawfulEnd followed here⟩

end Trace

end ModemStack.Operations
