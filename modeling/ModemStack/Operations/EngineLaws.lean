import ModemStack.Operations.Engine

/-!
What one invocation and one reconciliation can do to the shared state.

An invocation closes its modem's gate only in the turn after its completion
hooks, and only with an uncertain completion behind it; an invocation of a
mutation has changed nothing up to its `execute` and, before it ends, has closed
the gate over every unconfirmed device state but those it does not heed
(`invokeNow_always`). A reconciliation opens the gate only in the turn in which
its `run` answered `reconciled` with the generation unchanged
(`reconcileNow_always`).
-/

namespace ModemStack.Operations

open ModemStack.Async ModemStack.Domain Program

variable {I O : Type}

abbrev EngineEvent (I O : Type) := Event EngineState (Hook I O) Hook.Answer Rejection

abbrev History (I O : Type) := List (EngineEvent I O)

section Rules

variable {α : Type} {Call : History I O → Hook I O → EngineState → Prop}
  {s : EngineState} {history : History I O}

@[simp] theorem always_callHook {hook : Hook I O}
    {Done : History I O → Except Rejection hook.Answer → EngineState → Prop} :
    (callHook hook).Always Call Done s history ↔ Call history hook s ∧
      ∀ answer resumed, Done (⟨hook, answer, s, resumed⟩ :: history) answer resumed :=
  always_perform

@[simp] theorem always_pause {at' : Pause}
    {Done : History I O → Except Rejection Unit → EngineState → Prop} :
    (pause at').Always Call Done s history ↔ Call history (.pause at') s ∧
      ∀ answer resumed, Done (⟨.pause at', answer, s, resumed⟩ :: history) (.ok ()) resumed :=
  always_yield

end Rules

/-! ### Events -/

/-- A completion that leaves the outcome unknown to the engine: of `execute` as
`classifyOperationCompletion` reads it, of a readback when its generation is
gone. -/
def Uncertain (kind : OperationKind) (modem : PhysicalModemId) : EngineEvent I O → Prop
  | ⟨.execute context, .ok completion, _, resumed⟩ =>
    completion.Uncertain kind context.generation (resumed.currentGeneration modem)
  | ⟨.readback context, .ok _, _, resumed⟩ => context.generation ≠ resumed.currentGeneration modem
  | _ => False

/-- What a rollback that did not succeed answers: it rejected, failed, timed out
or was dropped. -/
def RollbackLost : Except Rejection (OperationCompletion Unit) → Prop
  | .error _ | .ok (.failed _) | .ok .timedOut | .ok .dropped => True
  | .ok (.applied _) | .ok (.refused _) => False

/-- After this event the device is in a state nobody confirmed: `execute`
rejected, timed out, was dropped or completed in a stale generation, or a rollback
was lost. -/
def Unconfirmed (modem : PhysicalModemId) : EngineEvent I O → Prop
  | ⟨.execute _, .error _, _, _⟩ => True
  | ⟨.execute context, .ok completion, _, resumed⟩ =>
    completion.Uncertain .write context.generation (resumed.currentGeneration modem)
  | ⟨.rollback _, answer, _, _⟩ => RollbackLost answer
  | _ => False

/-- The unconfirmed endings the engine does not look at. -/
def Unheeded : EngineEvent I O → Prop
  | ⟨.execute _, .error _, _, _⟩ => True
  | ⟨.rollback _, answer, _, _⟩ => RollbackLost answer
  | _ => False

/-- The hooks an invocation awaits before it calls `execute`. -/
def Hook.BeforeExecute : Hook I O → Prop
  | .check _ | .acquire _ => True
  | .record event => match event.phase with
      | .started _ => True
      | .completed _ => False
  | .pause at' => at' = .admissionNotRequired ∨ at' = .admissionPortMissing ∨
      at' = .startedNotJournaled
  | _ => False

def Hook.UpToExecute : Hook I O → Prop
  | .execute _ => True
  | hook => hook.BeforeExecute

theorem Hook.BeforeExecute.upTo {hook : Hook I O} (before : hook.BeforeExecute) :
    hook.UpToExecute := by
  cases hook <;> trivial

theorem Hook.BeforeExecute.not_unconfirmed {event : EngineEvent I O} {modem : PhysicalModemId}
    (before : event.op.BeforeExecute) : ¬ Unconfirmed modem event := by
  obtain ⟨op, answer, called, resumed⟩ := event
  cases op <;> simp_all [Hook.BeforeExecute, Unconfirmed]

/-! ### Predicates on an invocation's turns -/

section Predicates

variable (execution : OperationExecution I O) (begun : EngineState) (history : History I O)

/-- Nothing has changed in this turn. -/
def Unchanged (s : EngineState) : Prop := s = turnStart begun history

/-- What an invocation may have done to the shared state in a turn: nothing, or
closed its modem's gate, right after the completion hooks and with an uncertain
completion behind it. -/
def InvocationTurn (s : EngineState) : Prop :=
  Unchanged begun history s ∨
    s = (turnStart begun history).requireReconciliation execution.physicalModemId ∧
      (∃ event earlier, history = event :: earlier ∧ event.op = .pause .runCompletionHooks) ∧
      ∃ event ∈ history, Uncertain execution.descriptor.kind execution.physicalModemId event

/-- So far the invocation has only awaited hooks that come before `execute`, and a
mutation found its gate open when it began. -/
structure Before : Prop where
  hooks : ∀ event ∈ history, event.op.BeforeExecute
  «open» : execution.descriptor.kind = .write →
    execution.physicalModemId ∉ begun.reconciliationRequired

/-- What holds when an invocation calls a hook. -/
structure InvocationCall (hook : Hook I O) (s : EngineState) : Prop where
  turn : InvocationTurn execution begun history s
  before : execution.descriptor.kind = .write → hook.UpToExecute →
    Unchanged begun history s ∧ Before execution begun history

/-- Every unconfirmed ending of a mutation is one the engine does not heed, or has
left `outcome` unknown. -/
def Accounted (Known : Prop) : Prop :=
  execution.descriptor.kind = .write →
    (∃ event ∈ history, Unconfirmed execution.physicalModemId event) →
      (∃ event ∈ history, Unheeded event) ∨ Known

/-- What holds between `execute` and the gate. -/
structure Executed (outcome : Except Rejection (OperationResult O)) (s : EngineState) :
    Prop where
  unchanged : Unchanged begun history s
  explained : ∀ result, outcome = .ok result → result.requiresReconciliation = true →
    ∃ event ∈ history, Uncertain execution.descriptor.kind execution.physicalModemId event
  accounted : Accounted execution history
    (∃ result, outcome = .ok result ∧ result.requiresReconciliation = true)

/-- What holds when an invocation ends: every unconfirmed ending it heeds has had
the gate closed over it. -/
structure InvocationDone (s : EngineState) : Prop where
  unchanged : Unchanged begun history s
  accounted : Accounted execution history (∃ event ∈ history,
    execution.physicalModemId ∈ event.called.reconciliationRequired)

end Predicates

section Rules

variable {execution : OperationExecution I O} {generation : DeviceGeneration}
  {begun s : EngineState} {history : History I O}

theorem unchanged_resumed (event : EngineEvent I O) :
    Unchanged begun (event :: history) event.resumed := rfl

/-- A call after `execute` that has changed nothing. -/
theorem Unchanged.call {hook : Hook I O} (unchanged : Unchanged begun history s)
    (after : ¬ hook.UpToExecute) : InvocationCall execution begun history hook s :=
  ⟨.inl unchanged, fun _ upTo => absurd upTo after⟩

theorem Before.call {hook : Hook I O} (before : Before execution begun history)
    (unchanged : Unchanged begun history s) : InvocationCall execution begun history hook s :=
  ⟨.inl unchanged, fun _ _ => ⟨unchanged, before⟩⟩

theorem Before.cons (before : Before execution begun history) {event : EngineEvent I O}
    (hook : event.op.BeforeExecute) : Before execution begun (event :: history) where
  hooks := List.forall_mem_cons.mpr ⟨hook, before.hooks⟩
  «open» := before.open

theorem Before.accounted {Known : Prop} (before : Before execution begun history) :
    Accounted execution history Known := by
  rintro - ⟨event, mem, unconfirmed⟩
  exact absurd unconfirmed (before.hooks event mem).not_unconfirmed

/-- An event that confirms what it ends, or that is accounted for itself, keeps
the account. -/
theorem Accounted.cons {Known Known' : Prop} {event : EngineEvent I O}
    (accounted : Accounted execution history Known)
    (now : execution.descriptor.kind = .write →
      Unconfirmed execution.physicalModemId event → Unheeded event ∨ Known')
    (known : Known → Known') : Accounted execution (event :: history) Known' := by
  intro isWrite unconfirmed
  simp only [List.exists_mem_cons_iff] at unconfirmed ⊢
  rcases unconfirmed with head | tail
  · exact (now isWrite head).imp_left .inl
  · exact (accounted isWrite tail).imp .inr known

theorem Before.done (before : Before execution begun history)
    (unchanged : Unchanged begun history s) : InvocationDone execution begun history s :=
  ⟨unchanged, before.accounted⟩

/-! ### From `execute` to the gate -/

theorem executed_error {error : Rejection} (unchanged : Unchanged begun history s)
    (accounted : Accounted execution history False) :
    Executed execution begun history (.error error) s where
  unchanged := unchanged
  explained := by rintro result ⟨⟩
  accounted isWrite unconfirmed := (accounted isWrite unconfirmed).imp_right False.elim

theorem executed_definite {result : OperationResult O}
    (definite : result.requiresReconciliation = false) (unchanged : Unchanged begun history s)
    (accounted : Accounted execution history False) :
    Executed execution begun history (.ok result) s where
  unchanged := unchanged
  explained := by
    rintro _ ⟨rfl⟩ unknown
    simp [definite] at unknown
  accounted isWrite unconfirmed := (accounted isWrite unconfirmed).imp_right False.elim

variable {result : OperationResult O}

/-- A definite result is one whose account needs no gate. -/
theorem Executed.definite (executed : Executed execution begun history (.ok result) s)
    (definite : result.requiresReconciliation = false) : Accounted execution history False := by
  intro isWrite unconfirmed
  refine (executed.accounted isWrite unconfirmed).imp_right ?_
  rintro ⟨_, ⟨rfl⟩, unknown⟩
  simp [definite] at unknown

/-- Attempts are the last hook `Before` speaks of; only reads make a second one. -/
theorem executeAttempts_always {remaining attempt : Nat} (unchanged : Unchanged begun history s)
    (before : execution.descriptor.kind = .write → Before execution begun history) :
    (executeAttempts execution generation remaining attempt).Always
      (InvocationCall execution begun) (Executed execution begun) s history := by
  induction remaining generalizing attempt s history with
  | zero => exact executed_definite rfl unchanged fun isWrite => (before isWrite).accounted isWrite
  | succ remaining ih =>
    simp only [executeAttempts, always_monad_bind, always_callHook, always_get]
    refine ⟨⟨.inl unchanged, fun isWrite _ => ⟨unchanged, before isWrite⟩⟩,
      fun answer resumed => ?_⟩
    have past : Accounted execution history False := fun isWrite =>
      (before isWrite).accounted isWrite
    cases answer with
    | error =>
      exact executed_error (unchanged_resumed ⟨_, _, s, resumed⟩)
        (past.cons (fun _ _ => .inl trivial) id)
    | ok =>
      simp only [onOutcome_ok]
      split
      · exact
          { unchanged := unchanged_resumed ⟨_, _, s, resumed⟩
            explained := by
              rintro _ ⟨rfl⟩ unknown
              exact ⟨_, List.mem_cons_self, classify_requiresReconciliation.mp unknown⟩
            accounted := past.cons (fun isWrite unconfirmed => .inr ⟨_, rfl,
              classify_requiresReconciliation.mpr (isWrite ▸ unconfirmed)⟩) False.elim }
      · next again =>
        refine ih (unchanged_resumed ⟨_, _, s, resumed⟩) fun isWrite => ?_
        exact absurd (.inl (canAutoRetry_write isWrite)) again

/-- A rollback changes nothing here, and the result after it is a definite one. -/
theorem runRollback_always {context : OperationAttemptContext}
    (unchanged : Unchanged begun history s) (accounted : Accounted execution history False)
    (definite : result.requiresReconciliation = false) :
    (runRollback execution context >>= fun _ => pure result).Always
      (InvocationCall execution begun) (Executed execution begun) s history := by
  rw [always_monad_bind]
  unfold runRollback
  split
  · simp only [always_monad_bind, always_callHook, always_pure]
    refine ⟨unchanged.call id, fun answer resumed => ?_⟩
    have now : Accounted execution (⟨.rollback context, answer, s, resumed⟩ :: history) False :=
      accounted.cons (fun _ lost => .inl lost) id
    cases answer with
    | error => exact executed_error (unchanged_resumed ⟨_, _, s, resumed⟩) now
    | ok => exact executed_definite definite (unchanged_resumed ⟨_, _, s, resumed⟩) now
  · rw [always_pause]
    refine ⟨unchanged.call ?_, fun answer resumed =>
      executed_definite definite (unchanged_resumed ⟨_, answer, s, resumed⟩) ?_⟩
    · simp [Hook.UpToExecute, Hook.BeforeExecute]
    · exact accounted.cons (fun _ => False.elim) id

theorem judgeReadback_always {result readback : OperationResult O}
    {context : OperationAttemptContext} {matches' : I → O → Bool}
    (executed : Executed execution begun history (.ok readback) s)
    (accounted : Accounted execution history False)
    (definite : result.requiresReconciliation = false) :
    (judgeReadback execution result context matches' readback).Always
      (InvocationCall execution begun) (Executed execution begun) s history := by
  cases readback with
  | applied =>
    simp only [judgeReadback]
    split
    · exact executed_definite definite executed.unchanged accounted
    · exact runRollback_always executed.unchanged accounted rfl
  | refused => exact runRollback_always executed.unchanged accounted rfl
  | unknownOutcome => exact executed
  | failed => exact runRollback_always executed.unchanged accounted rfl

theorem runCompletionHooks_always (executed : Executed execution begun history (.ok result) s) :
    (runCompletionHooks execution result generation).Always
      (InvocationCall execution begun) (Executed execution begun) s history := by
  cases result with
  | applied =>
    simp only [runCompletionHooks]
    split
    · exact executed
    · split
      · simp only [always_monad_bind, always_callHook, always_get]
        refine ⟨executed.unchanged.call id, fun answer resumed => ?_⟩
        have accounted : ∀ answer, Accounted execution
            (⟨.readback ⟨execution.operationId, generation, 1⟩, answer, s, resumed⟩ :: history)
            False :=
          fun answer => (executed.definite rfl).cons (fun _ => False.elim) id
        cases answer with
        | error => exact executed_error (unchanged_resumed ⟨_, _, s, resumed⟩) (accounted _)
        | ok =>
          refine judgeReadback_always ?_ (accounted _) rfl
          exact
            { unchanged := unchanged_resumed ⟨_, _, s, resumed⟩
              explained := by
                rintro _ ⟨rfl⟩ unknown
                refine ⟨_, List.mem_cons_self, ?_⟩
                obtain stale | ⟨isWrite, -⟩ := classify_requiresReconciliation.mp unknown
                · exact stale
                · cases isWrite
              accounted := fun isWrite unconfirmed =>
                (accounted _ isWrite unconfirmed).imp_right False.elim }
      · simp only [always_monad_bind, always_pause, always_pure, onOutcome_ok]
        refine ⟨executed.unchanged.call ?_, fun answer resumed => executed_definite rfl
          (unchanged_resumed ⟨_, answer, s, resumed⟩)
          ((executed.definite rfl).cons (fun _ => False.elim) id)⟩
        simp [Hook.UpToExecute, Hook.BeforeExecute]
  | failed =>
    simp only [runCompletionHooks]
    split
    · exact runRollback_always executed.unchanged (executed.definite rfl) rfl
    · exact executed
  | refused | unknownOutcome => exact executed

/-- Nothing is learned at the end of an inner async function. -/
theorem Executed.pause {at' : Pause} {outcome : Except Rejection (OperationResult O)}
    (executed : Executed execution begun history outcome s)
    (answer : Except Rejection (Hook.pause at' : Hook I O).Answer) (resumed : EngineState) :
    Executed execution begun (⟨.pause at', answer, s, resumed⟩ :: history) outcome resumed where
  unchanged := unchanged_resumed ⟨_, answer, s, resumed⟩
  explained result ok unknown :=
    List.exists_mem_cons_of_exists (executed.explained result ok unknown)
  accounted := executed.accounted.cons (fun _ => False.elim) id

theorem Executed.done_error {error : Rejection}
    (executed : Executed execution begun history (.error error) s) :
    InvocationDone execution begun history s where
  unchanged := executed.unchanged
  accounted isWrite unconfirmed := by
    refine (executed.accounted isWrite unconfirmed).imp_right ?_
    rintro ⟨_, ⟨⟩, -⟩

/-! ### The whole invocation -/

/-- Closing the gate and the `completed` record: the record's call is made with
the gate closed over an unknown result. -/
theorem recordCompleted_always {closed : EngineState}
    (turn : InvocationTurn execution begun history closed)
    (accounted : Accounted execution history
      (execution.physicalModemId ∈ closed.reconciliationRequired)) :
    (record execution generation (.completed result) .completedNotJournaled >>=
        fun _ => pure result).Always (InvocationCall execution begun)
      (fun history _ s => InvocationDone execution begun history s) closed history := by
  rw [always_monad_bind]
  unfold record
  split
  · simp only [always_monad_bind, always_callHook, always_pure]
    refine ⟨⟨turn, fun _ => False.elim⟩, fun answer resumed => ?_⟩
    have done : ∀ answer, InvocationDone execution begun (⟨.record ⟨execution.operationId,
        execution.physicalModemId, generation, execution.descriptor, .completed result⟩,
        answer, closed, resumed⟩ :: history) resumed := fun answer =>
      ⟨unchanged_resumed ⟨_, answer, closed, resumed⟩,
        accounted.cons (fun _ => False.elim) fun mem => ⟨_, List.mem_cons_self, mem⟩⟩
    cases answer <;> exact done _
  · rw [always_pause]
    refine ⟨⟨turn, fun _ upTo => ?_⟩, fun answer resumed => ?_⟩
    · simp [Hook.UpToExecute, Hook.BeforeExecute] at upTo
    · exact ⟨unchanged_resumed ⟨_, answer, closed, resumed⟩,
        accounted.cons (fun _ => False.elim) fun mem => ⟨_, List.mem_cons_self, mem⟩⟩

/-- The `started` record comes before `execute`. -/
theorem recordStarted_always {input : I} {Done : History I O → Except Rejection Unit →
      EngineState → Prop}
    (unchanged : Unchanged begun history s) (before : Before execution begun history)
    (done : ∀ event outcome, event.op.BeforeExecute →
      Done (event :: history) outcome event.resumed) :
    (record execution generation (.started input) .startedNotJournaled).Always
      (InvocationCall execution begun) Done s history := by
  unfold record
  split
  · simp only [always_monad_bind, always_callHook, always_pure]
    refine ⟨before.call unchanged, fun answer resumed => ?_⟩
    cases answer <;> exact done ⟨_, _, s, resumed⟩ _ trivial
  · rw [always_pause]
    exact ⟨before.call unchanged, fun answer resumed =>
      done ⟨_, answer, s, resumed⟩ _ (.inr (.inr rfl))⟩

theorem runAdmitted_always (unchanged : Unchanged begun history s)
    (before : Before execution begun history) :
    (runAdmitted execution generation).Always (InvocationCall execution begun)
      (fun history _ s => InvocationDone execution begun history s) s history := by
  simp only [runAdmitted, always_monad_bind, always_call]
  refine recordStarted_always unchanged before fun event outcome isBefore => ?_
  have before := before.cons isBefore
  cases outcome with
  | error => exact before.done (unchanged_resumed event)
  | ok _ =>
    rw [onOutcome_ok]
    refine (executeAttempts_always (unchanged_resumed event) fun _ => before).mono
      (fun _ _ _ => id) fun history outcome s executed => ?_
    refine ⟨executed.unchanged.call (by simp [Hook.UpToExecute, Hook.BeforeExecute]),
      fun answer resumed => ?_⟩
    have executed := executed.pause answer resumed
    cases outcome with
    | error => exact executed.done_error
    | ok =>
      rw [onOutcome_ok]
      refine (runCompletionHooks_always executed).mono (fun _ _ _ => id)
        fun history outcome s hooked => ?_
      refine ⟨hooked.unchanged.call (by simp [Hook.UpToExecute, Hook.BeforeExecute]),
        fun answer resumed => ?_⟩
      have hooked := hooked.pause answer resumed
      cases outcome with
      | error => exact hooked.done_error
      | ok =>
        rw [onOutcome_ok]
        split
        · next unknown =>
          rw [always_monad_bind, always_modify, onOutcome_ok]
          refine recordCompleted_always
            (.inr ⟨rfl, ⟨_, _, rfl, rfl⟩, hooked.explained _ rfl unknown⟩) ?_
          exact fun _ _ => .inr (Finset.mem_insert_self _ _)
        · next known =>
          refine recordCompleted_always (.inl hooked.unchanged) fun isWrite unconfirmed => ?_
          exact (hooked.definite (by simpa using known) isWrite unconfirmed).imp_right
            False.elim

/-- Releasing the admission adds nothing to what holds at the end. -/
theorem releaseAdmission_always {admission : MutationAdmissionResult}
    {Done : History I O → Except Rejection Unit → EngineState → Prop}
    (ended : InvocationDone execution begun history s)
    (done : ∀ history outcome s, InvocationDone execution begun history s →
      Done history outcome s) :
    ((releaseAdmission admission).call (.pause .releaseAdmission)).Always
      (InvocationCall execution begun) Done s history := by
  have notLast : ¬ (Hook.pause .releaseAdmission : Hook I O).UpToExecute := by
    simp [Hook.UpToExecute, Hook.BeforeExecute]
  have later : ∀ {history s} (event : EngineEvent I O),
      InvocationDone execution begun history s →
      (∀ modem, ¬ Unconfirmed modem event) →
      InvocationDone execution begun (event :: history) event.resumed :=
    fun _ ended confirmed => ⟨unchanged_resumed _, ended.accounted.cons
      (fun _ unconfirmed => absurd unconfirmed (confirmed _)) List.exists_mem_cons_of_exists⟩
  rw [always_call]
  unfold releaseAdmission
  split
  · simp only [always_monad_bind, always_callHook, always_pure]
    refine ⟨ended.unchanged.call id, fun answer resumed => ?_⟩
    have released : ∀ answer, InvocationDone execution begun
        (⟨.release, answer, s, resumed⟩ :: history) resumed :=
      fun answer => later ⟨.release, answer, s, resumed⟩ ended fun _ => id
    cases answer <;> exact ⟨(released _).unchanged.call notLast, fun answer resumed =>
      done _ _ _ (later ⟨_, answer, _, resumed⟩ (released _) fun _ => id)⟩
  · exact ⟨ended.unchanged.call notLast, fun answer resumed =>
      done _ _ _ (later ⟨_, answer, _, resumed⟩ ended fun _ => id)⟩

theorem acquireMutationAdmission_always
    {Done : History I O → Except Rejection MutationAdmissionResult → EngineState → Prop}
    (unchanged : Unchanged begun history s) (before : Before execution begun history)
    (done : ∀ event outcome, event.op.BeforeExecute →
      Done (event :: history) outcome event.resumed) :
    (acquireMutationAdmission execution).Always (InvocationCall execution begun) Done s
      history := by
  unfold acquireMutationAdmission
  split
  · simp only [always_monad_bind, always_pause, always_pure, onOutcome_ok]
    exact ⟨before.call unchanged, fun answer resumed =>
      done ⟨_, answer, _, resumed⟩ _ (.inl rfl)⟩
  · split
    · simp only [always_monad_bind, always_pause, always_pure, onOutcome_ok]
      exact ⟨before.call unchanged, fun answer resumed =>
        done ⟨_, answer, _, resumed⟩ _ (.inr (.inl rfl))⟩
    · simp only [always_monad_bind, always_callHook]
      refine ⟨before.call unchanged, fun answer resumed => ?_⟩
      rcases answer with error | decision
      · exact done ⟨_, _, _, resumed⟩ _ trivial
      · cases decision <;> exact done ⟨_, _, _, resumed⟩ _ trivial

theorem runChecked_always (unchanged : Unchanged begun history s)
    (before : Before execution begun history) :
    (runChecked execution generation).Always (InvocationCall execution begun)
      (fun history _ s => InvocationDone execution begun history s) s history := by
  have admitted : ∀ {admission history s}, Unchanged begun history s →
      Before execution begun history →
      ((runAdmitted execution generation).ensuring
        ((releaseAdmission admission).call (.pause .releaseAdmission))).Always
        (InvocationCall execution begun)
        (fun history _ s => InvocationDone execution begun history s) s history := by
    intro admission history s unchanged before
    rw [always_ensuring]
    refine (runAdmitted_always unchanged before).mono (fun _ _ _ => id)
      fun history outcome s ended => ?_
    refine releaseAdmission_always ended fun history cleaned s ended => ?_
    cases cleaned <;> exact ended
  rw [runChecked, always_monad_bind]
  refine acquireMutationAdmission_always unchanged before fun event outcome isBefore => ?_
  have before := before.cons isBefore
  cases outcome with
  | error => exact before.done (unchanged_resumed event)
  | ok admission =>
    cases admission with
    | refused => exact before.done (unchanged_resumed event)
    | notRequired | admitted => exact admitted (unchanged_resumed event) before

/-- One invocation, whatever its hooks answer and whatever the other calls do
meanwhile. -/
theorem invokeNow_always [OperationInput I] :
    (invokeNow execution).Always (InvocationCall execution begun)
      (fun history _ s => InvocationDone execution begun history s) begun [] := by
  have nothing : InvocationDone execution begun [] begun :=
    ⟨rfl, fun _ unconfirmed => by simp at unconfirmed⟩
  simp only [invokeNow, always_monad_bind, always_get, onOutcome_ok]
  split
  · exact nothing
  · next «open» =>
    split
    · exact nothing
    · have before : Before execution begun ([] : History I O) :=
        ⟨by simp, fun isWrite mem => «open» ⟨isWrite, mem⟩⟩
      simp only [always_monad_bind, always_callHook]
      refine ⟨before.call rfl, fun answer resumed => ?_⟩
      have before : Before execution begun [⟨_, answer, begun, resumed⟩] := before.cons trivial
      rcases answer with error | precondition
      · exact before.done (unchanged_resumed ⟨_, _, begun, resumed⟩)
      · cases precondition with
        | refused => exact before.done (unchanged_resumed ⟨_, _, begun, resumed⟩)
        | satisfied => exact runChecked_always (unchanged_resumed ⟨_, _, begun, resumed⟩) before

end Rules

/-! ### One reconciliation -/

/-- What a reconciliation may have done to the shared state in a turn: nothing, or
opened its modem's gate, right after a `run` that answered `reconciled` with the
requested generation current before and after it. -/
def ReconciliationTurn (execution : ReconciliationExecution) (begun : EngineState)
    (history : History I O) (s : EngineState) : Prop :=
  Unchanged begun history s ∨
    s = (turnStart begun history).clearReconciliation execution.physicalModemId ∧
      ∃ called resumed earlier, history = ⟨.run, .ok .reconciled, called, resumed⟩ :: earlier ∧
        called.currentGeneration execution.physicalModemId = execution.generation ∧
        resumed.currentGeneration execution.physicalModemId = execution.generation

theorem reconcileNow_always {execution : ReconciliationExecution} {begun : EngineState} :
    (reconcileNow execution : Task I O ReconciliationResult).Always
      (fun history _ s => ReconciliationTurn execution begun history s)
      (fun history _ s => ReconciliationTurn execution begun history s) begun [] := by
  simp only [reconcileNow, always_monad_bind, always_get, onOutcome_ok]
  split
  · exact .inl rfl
  · split
    · exact .inl rfl
    · next same =>
      simp only [always_monad_bind, always_callHook, always_get]
      refine ⟨.inl rfl, fun answer resumed => ?_⟩
      rcases answer with error | run
      · exact .inl rfl
      · simp only [onOutcome_ok]
        by_cases still : resumed.currentGeneration execution.physicalModemId = execution.generation
        · rw [if_neg (not_not_intro still)]
          cases run with
          | failed => exact .inl rfl
          | reconciled => exact .inr ⟨rfl, begun, resumed, [], rfl, by simpa using same, still⟩
        · rw [if_pos still]
          exact .inl rfl

end ModemStack.Operations
