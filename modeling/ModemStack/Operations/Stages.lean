import ModemStack.Operations.EngineLaws

/-!
The stages of one invocation.

An invocation is an automaton over its awaits: the stage it is in says which hook is called next,
and the answer, with the generation found then, says which stage follows. The program does just
that (`invokeNow_follows`), so that what is to be said of its traces is said of stages.
-/

namespace ModemStack.Operations

open ModemStack.Async ModemStack.Domain ModemStack.Text Program

/-- `lease`: the invocation was admitted with a lease, which is to be released. -/
inductive Stage (O : Type) where
  | begun
  | checked
  | admitted (lease : Bool)
  | journaled (lease : Bool)
  | retrying (lease : Bool)
  | executed (lease : Bool) (outcome : Except Rejection (OperationResult O))
  | observing (lease : Bool) (result : OperationResult O)
  /-- `result` is what is returned after the rollback. -/
  | rollingBack (lease : Bool) (result : OperationResult O)
  | hooked (lease : Bool) (outcome : Except Rejection (OperationResult O))
  | settled (lease : Bool) (withHooks : OperationResult O)
  | closing (lease : Bool) (outcome : Except Rejection (OperationResult O))
  | unlocked (outcome : Except Rejection (OperationResult O))
  | ended (outcome : Except Rejection (OperationResult O))

variable {I O : Type}

section Stages

variable (execution : OperationExecution I O) (generation : DeviceGeneration)

/-- The classification of what a hook has completed with. -/
def classified (kind : OperationKind) (resumed : EngineState) (completion : OperationCompletion O) :
    OperationResult O :=
  classifyOperationCompletion kind generation (resumed.currentGeneration execution.physicalModemId)
    completion

/-! ### What is called next -/

namespace Stage

def next : Stage O → Option (Hook I O)
  | .begun => some (.check ⟨execution.operationId, execution.physicalModemId, generation,
      execution.descriptor.id, execution.descriptor.livePreconditions⟩)
  | .checked =>
    if execution.descriptor.admission.isRequired = false then some (.pause .admissionNotRequired)
    else match execution.descriptor.kind with
      | .read => some (.pause .admissionPortMissing)
      | .write => some (.acquire ⟨execution.operationId, execution.physicalModemId,
          execution.descriptor.mutationImpact, execution.descriptor.admission⟩)
  | .admitted _ =>
    if execution.hasJournal then some (.record ⟨execution.operationId, execution.physicalModemId,
      generation, execution.descriptor, .started execution.input⟩)
    else some (.pause .startedNotJournaled)
  | .journaled _ => some (.execute ⟨execution.operationId, generation, 1⟩)
  | .retrying _ => some (.execute ⟨execution.operationId, generation, 2⟩)
  | .executed _ _ => some (.pause .executeWithRetry)
  | .observing _ _ => some (.readback ⟨execution.operationId, generation, 1⟩)
  | .rollingBack _ _ =>
    if execution.hasRollback then some (.rollback ⟨execution.operationId, generation, 1⟩)
    else some (.pause .rollbackMissing)
  | .hooked _ _ => some (.pause .runCompletionHooks)
  | .settled _ withHooks =>
    if execution.hasJournal then some (.record ⟨execution.operationId, execution.physicalModemId,
      generation, execution.descriptor, .completed withHooks⟩)
    else some (.pause .completedNotJournaled)
  | .closing lease _ => if lease then some .release else some (.pause .releaseAdmission)
  | .unlocked _ => some (.pause .releaseAdmission)
  | .ended _ => none

/-! ### Which stage follows -/

/-- After the attempts: a readback, a rollback or neither. -/
def afterAttempts (lease : Bool) (result : OperationResult O) : Stage O :=
  match result with
  | .applied _ _ =>
    if execution.descriptor.readback.isRequired then .observing lease result
    else .hooked lease (.ok result)
  | .failed _ _ =>
    if execution.descriptor.rollback.isRequired then .rollingBack lease result
    else .hooked lease (.ok result)
  | .refused _ _ | .unknownOutcome _ _ => .hooked lease (.ok result)

/-- A readback that matches confirms the result; one that says nothing certain leaves it open. -/
def afterReadback (lease : Bool) (result : OperationResult O) : OperationResult O → Stage O
  | .applied observed _ =>
    match execution.descriptor.readback with
    | .notRequired => .hooked lease (.ok result)
    | .required _ matches' =>
      if matches' execution.input observed then .hooked lease (.ok result)
      else .rollingBack lease (.failed (js "readback-mismatch") generation)
  | .unknownOutcome reason generation => .hooked lease (.ok (.unknownOutcome reason generation))
  | .refused reason _ | .failed reason _ =>
    .rollingBack lease (.failed (js "readback-" ++ reason) generation)

/-- After an attempt of `execute`. `retry` is whether there is another one. -/
def afterExecute (lease retry : Bool) (result : OperationResult O) : Stage O :=
  if retry && canAutoRetry execution.descriptor result then .retrying lease
  else .executed lease (.ok result)

def after : Stage O → EngineEvent I O → Stage O
  | .begun, ⟨.check _, .ok .satisfied, _, _⟩ => .checked
  | .begun, ⟨.check _, .ok (.refused reason), _, _⟩ => .ended (.ok (.refused reason generation))
  | .begun, ⟨.check _, .error error, _, _⟩ => .ended (.error error)
  | .checked, ⟨.pause .admissionNotRequired, _, _, _⟩ => .admitted false
  | .checked, ⟨.pause .admissionPortMissing, _, _, _⟩ =>
    .ended (.ok (.refused MutationAdmissionRefusalReason.admissionPortMissing.text generation))
  | .checked, ⟨.acquire _, .ok .admitted, _, _⟩ => .admitted true
  | .checked, ⟨.acquire _, .ok (.refused reason), _, _⟩ =>
    .ended (.ok (.refused reason.text generation))
  | .checked, ⟨.acquire _, .error error, _, _⟩ => .ended (.error error)
  | .admitted lease, ⟨.record _, .ok _, _, _⟩ => .journaled lease
  | .admitted lease, ⟨.record _, .error error, _, _⟩ => .closing lease (.error error)
  | .admitted lease, ⟨.pause _, _, _, _⟩ => .journaled lease
  | .journaled lease, ⟨.execute _, .ok completion, _, resumed⟩ =>
    afterExecute execution lease true
      (classified execution generation execution.descriptor.kind resumed completion)
  | .journaled lease, ⟨.execute _, .error error, _, _⟩ => .executed lease (.error error)
  | .retrying lease, ⟨.execute _, .ok completion, _, resumed⟩ =>
    afterExecute execution lease false
      (classified execution generation execution.descriptor.kind resumed completion)
  | .retrying lease, ⟨.execute _, .error error, _, _⟩ => .executed lease (.error error)
  | .executed lease (.ok result), ⟨.pause _, _, _, _⟩ => afterAttempts execution lease result
  | .executed lease (.error error), ⟨.pause _, _, _, _⟩ => .closing lease (.error error)
  | .observing lease result, ⟨.readback _, .ok completion, _, resumed⟩ =>
    afterReadback execution generation lease result
      (classified execution generation .read resumed completion)
  | .observing lease _, ⟨.readback _, .error error, _, _⟩ => .hooked lease (.error error)
  | .rollingBack lease result, ⟨.rollback _, .ok _, _, _⟩ => .hooked lease (.ok result)
  | .rollingBack lease _, ⟨.rollback _, .error error, _, _⟩ => .hooked lease (.error error)
  | .rollingBack lease result, ⟨.pause _, _, _, _⟩ => .hooked lease (.ok result)
  | .hooked lease (.ok withHooks), ⟨.pause _, _, _, _⟩ => .settled lease withHooks
  | .hooked lease (.error error), ⟨.pause _, _, _, _⟩ => .closing lease (.error error)
  | .settled lease withHooks, ⟨.record _, .ok _, _, _⟩ => .closing lease (.ok withHooks)
  | .settled lease _, ⟨.record _, .error error, _, _⟩ => .closing lease (.error error)
  | .settled lease withHooks, ⟨.pause _, _, _, _⟩ => .closing lease (.ok withHooks)
  | .closing true outcome, ⟨.release, .ok _, _, _⟩ => .unlocked outcome
  | .closing true _, ⟨.release, .error error, _, _⟩ => .unlocked (.error error)
  | .closing false outcome, ⟨.pause _, _, _, _⟩ => .ended outcome
  | .unlocked outcome, ⟨.pause _, _, _, _⟩ => .ended outcome
  | stage, _ => stage

end Stage

end Stages

/-- The stage in which an invocation begins, or why it is refused at once. -/
def firstStage [OperationInput I] (execution : OperationExecution I O) (begun : EngineState) :
    Stage O :=
  let generation := begun.currentGeneration execution.physicalModemId
  if execution.descriptor.kind = .write ∧
      execution.physicalModemId ∈ begun.reconciliationRequired then
    .ended (.ok (.refused (js "reconciliation-required") generation))
  else match descriptorRefusalReason execution with
    | some reason => .ended (.ok (.refused reason generation))
    | none => .begun

/-- The stage that the answers so far have led to (latest first). -/
def stageOf [OperationInput I] (execution : OperationExecution I O) (begun : EngineState) :
    History I O → Stage O
  | [] => firstStage execution begun
  | event :: history => (stageOf execution begun history).after execution
      (begun.currentGeneration execution.physicalModemId) event

/-! ### The program goes from stage to stage -/

section Follows

variable [OperationInput I] {execution : OperationExecution I O} {begun s : EngineState}
  {history : History I O} {lease : Bool}

/-- A call is the one that the stage asks for. -/
def Follows (execution : OperationExecution I O) (begun : EngineState) (history : History I O)
    (hook : Hook I O) (_ : EngineState) : Prop :=
  (stageOf execution begun history).next execution
    (begun.currentGeneration execution.physicalModemId) = some hook

/-- The generation of the modem when the invocation began. -/
abbrev startGeneration (execution : OperationExecution I O) (begun : EngineState) :
    DeviceGeneration :=
  begun.currentGeneration execution.physicalModemId

/-- A part of the program ends in a stage that its outcome decides. -/
def Reaching {α : Type} (execution : OperationExecution I O) (begun : EngineState)
    (stage : Except Rejection α → Stage O) (history : History I O) (outcome : Except Rejection α)
    (_ : EngineState) : Prop :=
  stageOf execution begun history = stage outcome

theorem secondAttempt_follows (here : stageOf execution begun history = .retrying lease) :
    (executeAttempts execution (startGeneration execution begun) 1 2).Always
      (Follows execution begun) (Reaching execution begun (.executed lease)) s history := by
  simp only [executeAttempts, always_monad_bind, always_callHook, always_get]
  refine ⟨by rw [Follows, here]; rfl, fun answer resumed => ?_⟩
  cases answer with
  | error =>
    rw [onOutcome_error, Reaching, stageOf, here]
    rfl
  | ok =>
    rw [onOutcome_ok, onOutcome_ok, if_pos (.inr rfl), always_pure, Reaching, stageOf, here]
    rfl

theorem executeWithRetry_follows (here : stageOf execution begun history = .journaled lease) :
    (executeWithRetry execution (startGeneration execution begun)).Always
      (Follows execution begun) (Reaching execution begun (.executed lease)) s history := by
  rw [executeWithRetry, maxIdempotentReadAttempts, executeAttempts]
  simp only [always_monad_bind, always_callHook, always_get]
  refine ⟨by rw [Follows, here]; rfl, fun answer resumed => ?_⟩
  cases answer with
  | error =>
    rw [onOutcome_error, Reaching, stageOf, here]
    rfl
  | ok completion =>
    rw [onOutcome_ok, onOutcome_ok]
    by_cases retry : canAutoRetry execution.descriptor (classified execution
        (startGeneration execution begun) execution.descriptor.kind resumed completion) = true
    · have again : ¬ (canAutoRetry execution.descriptor (classified execution
          (startGeneration execution begun) execution.descriptor.kind resumed completion) = false ∨
          1 = maxIdempotentReadAttempts) := by
        simp [retry, maxIdempotentReadAttempts]
      unfold classified at again
      rw [if_neg again]
      refine secondAttempt_follows ?_
      rw [stageOf, here, Stage.after, Stage.afterExecute, retry]
      rfl
    · have final := eq_false_of_ne_true retry
      unfold classified at final
      rw [if_pos (.inl final), always_pure, Reaching, stageOf, here, Stage.after,
        Stage.afterExecute, eq_false_of_ne_true retry]
      rfl

theorem runRollback_follows {result : OperationResult O}
    (here : stageOf execution begun history = .rollingBack lease result) :
    (runRollback execution ⟨execution.operationId, startGeneration execution begun, 1⟩ >>=
        fun _ => pure result).Always
      (Follows execution begun) (Reaching execution begun (.hooked lease)) s history := by
  rw [always_monad_bind]
  unfold runRollback
  split
  · next present =>
    simp only [always_monad_bind, always_callHook, always_pure]
    refine ⟨by rw [Follows, here, Stage.next, if_pos present], fun answer resumed => ?_⟩
    cases answer with
    | error =>
      rw [onOutcome_error, onOutcome_error, Reaching, stageOf, here]
      rfl
    | ok =>
      rw [onOutcome_ok, onOutcome_ok, Reaching, stageOf, here]
      rfl
  · next missing =>
    simp only [always_pause, onOutcome_ok, always_pure]
    refine ⟨by rw [Follows, here, Stage.next, if_neg missing], fun answer resumed => ?_⟩
    rw [Reaching, stageOf, here]
    rfl

theorem judgeReadback_follows {result readback : OperationResult O} {reason : JsString}
    {matches' : I → O → Bool} (isRequired : execution.descriptor.readback = .required reason matches')
    (here : stageOf execution begun history =
      Stage.afterReadback execution (startGeneration execution begun) lease result readback) :
    (judgeReadback execution result ⟨execution.operationId, startGeneration execution begun, 1⟩
        matches' readback).Always
      (Follows execution begun) (Reaching execution begun (.hooked lease)) s history := by
  cases readback with
  | applied =>
    simp only [Stage.afterReadback, isRequired] at here
    rw [judgeReadback]
    split
    · next matched =>
      rw [if_pos matched] at here
      exact here
    · next mismatch =>
      rw [if_neg mismatch] at here
      exact runRollback_follows here
  | unknownOutcome => exact here
  | refused | failed => exact runRollback_follows here

/-- What a descriptor that refuses nothing promises of the hooks. -/
theorem hasReadback_of_unrefused (unrefused : descriptorRefusalReason execution = none)
    (isRequired : execution.descriptor.readback.isRequired = true) : execution.hasReadback = true := by
  by_contra missing
  have missing := eq_false_of_ne_true missing
  unfold descriptorRefusalReason at unrefused
  simp only [isRequired, missing] at unrefused
  split at unrefused
  · cases unrefused
  · split at unrefused
    · cases unrefused
    · cases unrefused
    · split at unrefused
      · cases unrefused
      · simp at unrefused

theorem runCompletionHooks_follows (unrefused : descriptorRefusalReason execution = none)
    {result : OperationResult O}
    (here : stageOf execution begun history = Stage.afterAttempts execution lease result) :
    (runCompletionHooks execution result (startGeneration execution begun)).Always
      (Follows execution begun) (Reaching execution begun (.hooked lease)) s history := by
  cases result with
  | applied =>
    rw [Stage.afterAttempts] at here
    rw [runCompletionHooks]
    cases readback : execution.descriptor.readback with
    | notRequired =>
      rw [readback] at here
      exact here
    | required =>
      rw [readback] at here
      have present := hasReadback_of_unrefused unrefused (by rw [readback]; rfl)
      dsimp only
      rw [if_pos present]
      simp only [always_monad_bind, always_callHook, always_get]
      refine ⟨by rw [Follows, here]; rfl, fun answer resumed => ?_⟩
      cases answer with
      | error =>
        rw [onOutcome_error, Reaching, stageOf, here]
        rfl
      | ok =>
        rw [onOutcome_ok, onOutcome_ok]
        refine judgeReadback_follows readback ?_
        rw [stageOf, here]
        rfl
  | failed =>
    rw [Stage.afterAttempts] at here
    rw [runCompletionHooks]
    split
    · next isRequired =>
      rw [if_pos isRequired] at here
      exact runRollback_follows here
    · next notRequired =>
      rw [if_neg notRequired] at here
      exact here
  | refused | unknownOutcome => exact here

theorem recordStarted_follows (here : stageOf execution begun history = .admitted lease) :
    (record execution (startGeneration execution begun) (.started execution.input)
        .startedNotJournaled).Always (Follows execution begun)
      (Reaching execution begun fun outcome => match outcome with
        | .ok _ => .journaled lease
        | .error error => .closing lease (.error error)) s history := by
  unfold record
  split
  · next journal =>
    simp only [always_monad_bind, always_callHook, always_pure]
    refine ⟨by rw [Follows, here, Stage.next, if_pos journal], fun answer resumed => ?_⟩
    cases answer with
    | error =>
      rw [onOutcome_error, Reaching, stageOf, here]
      rfl
    | ok =>
      rw [onOutcome_ok, Reaching, stageOf, here]
      rfl
  · next none =>
    simp only [always_pause]
    refine ⟨by rw [Follows, here, Stage.next, if_neg none], fun answer resumed => ?_⟩
    rw [Reaching, stageOf, here]
    rfl

theorem recordCompleted_follows {withHooks : OperationResult O}
    (here : stageOf execution begun history = .settled lease withHooks) :
    (record execution (startGeneration execution begun) (.completed withHooks)
        .completedNotJournaled >>= fun _ => pure withHooks).Always (Follows execution begun)
      (Reaching execution begun (.closing lease)) s history := by
  rw [always_monad_bind]
  unfold record
  split
  · next journal =>
    simp only [always_monad_bind, always_callHook, always_pure]
    refine ⟨by rw [Follows, here, Stage.next, if_pos journal], fun answer resumed => ?_⟩
    cases answer with
    | error =>
      rw [onOutcome_error, onOutcome_error, Reaching, stageOf, here]
      rfl
    | ok =>
      rw [onOutcome_ok, onOutcome_ok, Reaching, stageOf, here]
      rfl
  · next none =>
    simp only [always_pause, onOutcome_ok, always_pure]
    refine ⟨by rw [Follows, here, Stage.next, if_neg none], fun answer resumed => ?_⟩
    rw [Reaching, stageOf, here]
    rfl

theorem runAdmitted_follows (unrefused : descriptorRefusalReason execution = none)
    (here : stageOf execution begun history = .admitted lease) :
    (runAdmitted execution (startGeneration execution begun)).Always (Follows execution begun)
      (Reaching execution begun (.closing lease)) s history := by
  simp only [runAdmitted, always_monad_bind, always_call]
  refine (recordStarted_follows here).mono (fun _ _ _ => id) fun history outcome s here => ?_
  cases outcome with
  | error => exact here
  | ok _ =>
    rw [onOutcome_ok]
    refine (executeWithRetry_follows here).mono (fun _ _ _ => id) fun history outcome s here => ?_
    rw [Reaching] at here
    refine ⟨by rw [Follows, here]; rfl, fun answer resumed => ?_⟩
    cases outcome with
    | error =>
      rw [onOutcome_error, Reaching, stageOf, here]
      rfl
    | ok result =>
      rw [onOutcome_ok]
      have next : stageOf execution begun (⟨.pause .executeWithRetry, answer, s, resumed⟩ ::
          history) = Stage.afterAttempts execution lease result := by
        rw [stageOf, here]
        rfl
      refine (runCompletionHooks_follows unrefused next).mono (fun _ _ _ => id)
        fun history outcome s here => ?_
      rw [Reaching] at here
      refine ⟨by rw [Follows, here]; rfl, fun answer resumed => ?_⟩
      cases outcome with
      | error =>
        rw [onOutcome_error, Reaching, stageOf, here]
        rfl
      | ok withHooks =>
        have next : stageOf execution begun (⟨.pause .runCompletionHooks, answer, s,
            resumed⟩ :: history) = .settled lease withHooks := by
          rw [stageOf, here]
          rfl
        rw [onOutcome_ok]
        split
        · rw [always_monad_bind, always_modify, onOutcome_ok]
          exact recordCompleted_follows next
        · exact recordCompleted_follows next

/-- Whether an admission came with a lease. -/
def MutationAdmissionResult.isLease : MutationAdmissionResult → Bool
  | .admitted => true
  | _ => false

theorem release_follows {admission : MutationAdmissionResult}
    {outcome : Except Rejection (OperationResult O)}
    (here : stageOf execution begun history = .closing admission.isLease outcome) :
    ((releaseAdmission admission).call (.pause .releaseAdmission)).Always (Follows execution begun)
      (fun history cleaned s => OnOutcome
        (fun _ => Reaching execution begun .ended history outcome s)
        (fun error => Reaching execution begun .ended history (.error error) s) cleaned)
      s history := by
  rw [always_call]
  cases admission with
  | admitted =>
    simp only [releaseAdmission, always_monad_bind, always_callHook, always_pure]
    refine ⟨by rw [Follows, here]; rfl, fun answer resumed => ?_⟩
    cases answer with
    | error error =>
      have next : stageOf execution begun (⟨.release, .error error, s, resumed⟩ :: history) =
          .unlocked (.error error) := by
        rw [stageOf, here]
        rfl
      refine ⟨by rw [Follows, next]; rfl, fun answer resumed => ?_⟩
      rw [onOutcome_error, Reaching, stageOf, next]
      rfl
    | ok released =>
      have next : stageOf execution begun (⟨.release, .ok released, s, resumed⟩ :: history) =
          .unlocked outcome := by
        rw [stageOf, here]
        rfl
      refine ⟨by rw [Follows, next]; rfl, fun answer resumed => ?_⟩
      rw [onOutcome_ok, Reaching, stageOf, next]
      rfl
  | notRequired | refused =>
    simp only [releaseAdmission, always_pure]
    refine ⟨by rw [Follows, here]; rfl, fun answer resumed => ?_⟩
    rw [onOutcome_ok, Reaching, stageOf, here]
    rfl

theorem admitted_follows (unrefused : descriptorRefusalReason execution = none)
    {admission : MutationAdmissionResult}
    (here : stageOf execution begun history = .admitted admission.isLease) :
    ((runAdmitted execution (startGeneration execution begun)).ensuring
      ((releaseAdmission admission).call (.pause .releaseAdmission))).Always
      (Follows execution begun) (Reaching execution begun .ended) s history := by
  rw [always_ensuring]
  refine (runAdmitted_follows unrefused here).mono (fun _ _ _ => id) fun history outcome s here => ?_
  exact release_follows here

theorem runChecked_follows (unrefused : descriptorRefusalReason execution = none)
    (here : stageOf execution begun history = .checked) :
    (runChecked execution (startGeneration execution begun)).Always (Follows execution begun)
      (Reaching execution begun .ended) s history := by
  rw [runChecked, always_monad_bind]
  unfold acquireMutationAdmission
  split
  · next notRequired =>
    simp only [always_monad_bind, always_pause, always_pure, onOutcome_ok]
    refine ⟨by rw [Follows, here, Stage.next, if_pos notRequired], fun answer resumed => ?_⟩
    refine admitted_follows unrefused ?_
    rw [stageOf, here]
    rfl
  · next isRequired =>
    cases kind : execution.descriptor.kind with
    | read =>
      simp only [always_monad_bind, always_pause, always_pure, onOutcome_ok]
      refine ⟨by rw [Follows, here, Stage.next, if_neg isRequired, kind], fun answer resumed => ?_⟩
      rw [Reaching, stageOf, here]
      rfl
    | write =>
      simp only [always_monad_bind, always_callHook]
      refine ⟨by rw [Follows, here, Stage.next, if_neg isRequired, kind], fun answer resumed => ?_⟩
      cases answer with
      | error =>
        rw [onOutcome_error, onOutcome_error, Reaching, stageOf, here]
        rfl
      | ok decision =>
        rw [onOutcome_ok]
        cases decision with
        | admitted =>
          have next : MutationAdmissionResult.admitted.isLease = true := rfl
          refine admitted_follows unrefused ?_
          rw [next, stageOf, here]
          rfl
        | refused =>
          rw [always_pure, onOutcome_ok, always_pure, Reaching, stageOf, here]
          rfl

/-- An invocation goes through its stages, whatever its hooks answer and whatever the other calls do
meanwhile. -/
theorem invokeNow_follows (execution : OperationExecution I O) (begun : EngineState) :
    (invokeNow execution).Always (Follows execution begun) (Reaching execution begun .ended)
      begun [] := by
  simp only [invokeNow, always_monad_bind, always_get, onOutcome_ok]
  split
  · next closed => rw [always_pure, Reaching, stageOf, firstStage, if_pos closed]
  · next «open» =>
    cases refusal : descriptorRefusalReason execution with
    | some =>
      dsimp only
      rw [always_pure, Reaching, stageOf, firstStage, if_neg «open», refusal]
    | none =>
      have here : stageOf execution begun [] = .begun := by
        rw [stageOf, firstStage, if_neg «open», refusal]
      simp only [always_monad_bind, always_callHook]
      refine ⟨by rw [Follows, here]; rfl, fun answer resumed => ?_⟩
      cases answer with
      | error =>
        rw [onOutcome_error, Reaching, stageOf, here]
        rfl
      | ok precondition =>
        rw [onOutcome_ok]
        cases precondition with
        | refused =>
          dsimp only
          rw [always_pure, Reaching, stageOf, here]
          rfl
        | satisfied =>
          refine runChecked_follows refusal ?_
          rw [stageOf, here]
          rfl

omit [OperationInput I] in
/-- Every attempt carries the generation in which the invocation began. -/
theorem Stage.next_execute {stage : Stage O} {generation : DeviceGeneration}
    {context : OperationAttemptContext}
    (next : stage.next execution generation = some (.execute context)) :
    context.generation = generation := by
  cases stage with
  | journaled | retrying =>
    cases next
    rfl
  | checked =>
    rw [Stage.next] at next
    split at next
    · cases next
    · split at next <;> cases next
  | admitted | rollingBack | settled | closing =>
    rw [Stage.next] at next
    split at next <;> cases next
  | _ => cases next

end Follows

end ModemStack.Operations
