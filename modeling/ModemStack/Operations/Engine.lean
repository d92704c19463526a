import Mathlib.Data.Finset.Erase
import Mathlib.Data.Finset.Insert
import Mathlib.Data.Rat.Defs
import ModemStack.Async.Program
import ModemStack.Domain.Operation

/-!
The operation engine: one invocation and one reconciliation as async programs.

The state shared by all calls is the engine's set of modems awaiting
reconciliation and the generations its `currentGeneration` callback reports. The
hooks of an execution, the precondition port and the admission port are the
operations awaited; their behaviour is left open. Where the engine awaits
something already settled, the await is a `Pause`: it decides nothing, but other
calls may run there.
-/

namespace ModemStack.Operations

open ModemStack.Async ModemStack.Domain ModemStack.Text

/-- What a rejected promise carries. -/
structure Rejection where
  message : JsString
deriving DecidableEq

structure OperationPreconditionRequest where
  operationId : JsString
  physicalModemId : PhysicalModemId
  generation : DeviceGeneration
  descriptorId : JsString
  preconditions : List JsString
deriving DecidableEq

inductive OperationPreconditionResult where
  | satisfied
  | refused (reason : JsString)
deriving DecidableEq

structure MutationAdmissionRequest where
  operationId : JsString
  physicalModemId : PhysicalModemId
  impact : MutationImpact
  requirement : OperationRequirement
deriving DecidableEq

inductive MutationAdmissionRefusalReason where
  | admissionPortMissing
  | admissionRefused
deriving DecidableEq

def MutationAdmissionRefusalReason.text : MutationAdmissionRefusalReason → JsString
  | .admissionPortMissing => js "admission-port-missing"
  | .admissionRefused => js "admission-refused"

/-- What the admission port answers. -/
inductive MutationAdmissionDecision where
  | admitted
  | refused (reason : MutationAdmissionRefusalReason)
deriving DecidableEq

inductive MutationAdmissionResult where
  | notRequired
  | admitted
  | refused (reason : MutationAdmissionRefusalReason)
deriving DecidableEq

structure OperationAttemptContext where
  operationId : JsString
  generation : DeviceGeneration
  attempt : Nat
deriving DecidableEq

inductive OperationJournalPhase (I O : Type) where
  | started (input : I)
  | completed (result : OperationResult O)

structure OperationJournalEvent (I O : Type) where
  operationId : JsString
  physicalModemId : PhysicalModemId
  generation : DeviceGeneration
  descriptor : OperationDescriptor I O
  phase : OperationJournalPhase I O

/-- An execution. Its hooks are awaited operations; here stands which of the
optional ones it has. -/
structure OperationExecution (I O : Type) where
  operationId : JsString
  physicalModemId : PhysicalModemId
  descriptor : OperationDescriptor I O
  input : I
  hasReadback : Bool
  hasRollback : Bool
  hasJournal : Bool

structure ReconciliationExecution where
  physicalModemId : PhysicalModemId
  generation : DeviceGeneration

/-- What a reconciliation's own `run` answers. -/
inductive ReconciliationRun where
  | reconciled
  | failed (reason : JsString)
deriving DecidableEq

inductive ReconciliationResult where
  | reconciled (generation : DeviceGeneration)
  | notRequired (generation : DeviceGeneration)
  | failed (reason : JsString) (generation : DeviceGeneration)
deriving DecidableEq

/-- Awaits of something already settled: an optional hook that is absent, an
admission decided on the spot, the end of an inner async function. -/
inductive Pause where
  | admissionNotRequired
  | admissionPortMissing
  | startedNotJournaled
  | completedNotJournaled
  | readbackMissing
  | rollbackMissing
  | executeWithRetry
  | runCompletionHooks
  | releaseAdmission
deriving DecidableEq

inductive Hook (I O : Type) where
  | check (request : OperationPreconditionRequest)
  | acquire (request : MutationAdmissionRequest)
  | record (event : OperationJournalEvent I O)
  | execute (context : OperationAttemptContext)
  | readback (context : OperationAttemptContext)
  | rollback (context : OperationAttemptContext)
  | release
  | run
  | pause (at' : Pause)

/-- What each awaited operation resolves with. -/
def Hook.Answer {I O : Type} : Hook I O → Type
  | .check _ => OperationPreconditionResult
  | .acquire _ => MutationAdmissionDecision
  | .record _ => Unit
  | .execute _ => OperationCompletion O
  | .readback _ => OperationCompletion O
  | .rollback _ => OperationCompletion Unit
  | .release => Unit
  | .run => ReconciliationRun
  | .pause _ => Unit

structure EngineState where
  currentGeneration : PhysicalModemId → DeviceGeneration
  reconciliationRequired : Finset PhysicalModemId

abbrev Task (I O α : Type) := Program EngineState (Hook I O) Hook.Answer Rejection α

/-- How the engine compares and measures an operation's input: `Object.is`, and
the number an input is, if it is one. -/
class OperationInput (I : Type) where
  objectIs : I → I → Bool
  number : I → Option Rat

variable {I O : Type}

/-! ### Refusals -/

def inputAllowed [OperationInput I] (descriptor : OperationDescriptor I O) (input : I) : Bool :=
  match descriptor.constraints with
  | .unconstrained => true
  | .allowedValues values => values.any fun value => OperationInput.objectIs value input
  | .numericRange min max step =>
    match OperationInput.number input with
    | none => false
    | some number => decide (min ≤ number) && decide (number ≤ max) &&
        match step with
        | none => true
        | some step => step ≠ 0 && ((number - min) / step).den = 1

/-- The first of the descriptor's refusals, in the order they are tested. -/
def descriptorRefusalReason [OperationInput I] (execution : OperationExecution I O) :
    Option JsString :=
  let descriptor := execution.descriptor
  let support := match descriptor.kind with
    | .read => descriptor.supportRead
    | .write => descriptor.supportWrite
  match support with
  | .unsupported reason => some reason
  | .supported =>
    match descriptor.availability with
    | .unavailable reason => some reason
    | .refused reason => some reason
    | .available =>
      if inputAllowed descriptor execution.input = false then some (js "constraint-refused")
      else if descriptor.readback.isRequired ∧ execution.hasReadback = false then
        some (js "readback-hook-missing")
      else if descriptor.rollback.isRequired ∧ execution.hasRollback = false then
        some (js "rollback-hook-missing")
      else if descriptor.journal.isRequired ∧ execution.hasJournal = false then
        some (js "journal-hook-missing")
      else none

/-! ### One invocation -/

open Program

/-- Call a hook and await its answer. -/
def callHook (hook : Hook I O) : Task I O hook.Answer := perform hook

/-- Await something already settled. -/
def pause (at' : Pause) : Task I O Unit := yield (.pause at')

/-- An admission that is not required, or has no port to ask, is decided on the
spot. Reads are given no port. -/
def acquireMutationAdmission (execution : OperationExecution I O) :
    Task I O MutationAdmissionResult :=
  if execution.descriptor.admission.isRequired = false then do
    pause .admissionNotRequired
    return .notRequired
  else match execution.descriptor.kind with
    | .read => do
        pause .admissionPortMissing
        return .refused .admissionPortMissing
    | .write => do
        let decision ← callHook (.acquire ⟨execution.operationId, execution.physicalModemId,
          execution.descriptor.mutationImpact, execution.descriptor.admission⟩)
        match decision with
        | .admitted => return .admitted
        | .refused reason => return .refused reason

def releaseAdmission : MutationAdmissionResult → Task I O Unit
  | .admitted => do
      let _ ← callHook .release
      return ()
  | _ => return ()

def maxIdempotentReadAttempts : Nat := 2

/-- Attempts `attempt` and up, `remaining` of them. -/
def executeAttempts (execution : OperationExecution I O) (generation : DeviceGeneration) :
    Nat → Nat → Task I O (OperationResult O)
  | 0, _ => return .refused (js "retry-budget-exhausted") generation
  | remaining + 1, attempt => do
      let completion ← callHook (.execute ⟨execution.operationId, generation, attempt⟩)
      let s ← Program.get
      let result := classifyOperationCompletion execution.descriptor.kind generation
        (s.currentGeneration execution.physicalModemId) completion
      if canAutoRetry execution.descriptor result = false ∨ attempt = maxIdempotentReadAttempts
      then return result
      else executeAttempts execution generation remaining (attempt + 1)

def executeWithRetry (execution : OperationExecution I O) (generation : DeviceGeneration) :
    Task I O (OperationResult O) :=
  executeAttempts execution generation maxIdempotentReadAttempts 1

/-- `await execution.rollback?.(context)`: what the rollback answers is not looked
at. -/
def runRollback (execution : OperationExecution I O) (context : OperationAttemptContext) :
    Task I O Unit :=
  if execution.hasRollback then do
    let _ ← callHook (.rollback context)
    return ()
  else pause .rollbackMissing

/-- Judge what a readback observed. -/
def judgeReadback (execution : OperationExecution I O) (result : OperationResult O)
    (context : OperationAttemptContext) (matches' : I → O → Bool) :
    OperationResult O → Task I O (OperationResult O)
  | .applied observed _ =>
    if matches' execution.input observed then return result
    else do
      runRollback execution context
      return .failed (js "readback-mismatch") context.generation
  | .unknownOutcome reason generation => return .unknownOutcome reason generation
  | .refused reason _ | .failed reason _ => do
      runRollback execution context
      return .failed (js "readback-" ++ reason) context.generation

def runCompletionHooks (execution : OperationExecution I O) (result : OperationResult O)
    (generation : DeviceGeneration) : Task I O (OperationResult O) :=
  let context : OperationAttemptContext := ⟨execution.operationId, generation, 1⟩
  match result with
  | .applied _ _ =>
    match execution.descriptor.readback with
    | .notRequired => return result
    | .required _ matches' =>
      if execution.hasReadback then do
        let completion ← callHook (.readback context)
        let s ← Program.get
        judgeReadback execution result context matches'
          (classifyOperationCompletion .read generation
            (s.currentGeneration execution.physicalModemId) completion)
      else do
        pause .readbackMissing
        return .refused (js "readback-hook-missing") generation
  | .failed _ _ =>
    if execution.descriptor.rollback.isRequired then do
      runRollback execution context
      return result
    else return result
  | .refused _ _ | .unknownOutcome _ _ => return result

/-- `await execution.journal?.record(…)`; `missing` is the pause an absent journal
leaves. -/
def record (execution : OperationExecution I O) (generation : DeviceGeneration)
    (phase : OperationJournalPhase I O) (missing : Pause) : Task I O Unit :=
  if execution.hasJournal then do
    let _ ← callHook (.record ⟨execution.operationId, execution.physicalModemId, generation,
      execution.descriptor, phase⟩)
    return ()
  else pause missing

/-- Close the gate of a modem. -/
def EngineState.requireReconciliation (s : EngineState) (modem : PhysicalModemId) :
    EngineState :=
  { s with reconciliationRequired := insert modem s.reconciliationRequired }

/-- Open the gate of a modem. -/
def EngineState.clearReconciliation (s : EngineState) (modem : PhysicalModemId) :
    EngineState :=
  { s with reconciliationRequired := s.reconciliationRequired.erase modem }

/-- What an admitted invocation does before its admission is released. -/
def runAdmitted (execution : OperationExecution I O) (generation : DeviceGeneration) :
    Task I O (OperationResult O) := do
  record execution generation (.started execution.input) .startedNotJournaled
  let result ← (executeWithRetry execution generation).call (.pause .executeWithRetry)
  let withHooks ← (runCompletionHooks execution result generation).call
    (.pause .runCompletionHooks)
  if withHooks.requiresReconciliation then
    Program.modify fun s => s.requireReconciliation execution.physicalModemId
  record execution generation (.completed withHooks) .completedNotJournaled
  return withHooks

/-- An invocation that has passed its preconditions. -/
def runChecked (execution : OperationExecution I O) (generation : DeviceGeneration) :
    Task I O (OperationResult O) := do
  let admission ← acquireMutationAdmission execution
  match admission with
  | .refused reason => return .refused reason.text generation
  | .notRequired | .admitted =>
    (runAdmitted execution generation).ensuring
      ((releaseAdmission admission).call (.pause .releaseAdmission))

def invokeNow [OperationInput I] (execution : OperationExecution I O) :
    Task I O (OperationResult O) := do
  let s ← Program.get
  let generation := s.currentGeneration execution.physicalModemId
  if execution.descriptor.kind = .write ∧
      execution.physicalModemId ∈ s.reconciliationRequired then
    return .refused (js "reconciliation-required") generation
  else match descriptorRefusalReason execution with
    | some reason => return .refused reason generation
    | none => do
        let precondition ← callHook (.check ⟨execution.operationId, execution.physicalModemId,
          generation, execution.descriptor.id, execution.descriptor.livePreconditions⟩)
        match precondition with
        | .refused reason => return .refused reason generation
        | .satisfied => runChecked execution generation

/-! ### One reconciliation -/

/-- The task a reconciliation puts on the modem's queue. -/
def reconcileNow (execution : ReconciliationExecution) : Task I O ReconciliationResult := do
  let s ← Program.get
  let current := s.currentGeneration execution.physicalModemId
  if execution.physicalModemId ∉ s.reconciliationRequired then return .notRequired current
  else if current ≠ execution.generation then
    return .failed (js "stale-generation") current
  else do
    let result ← callHook .run
    let s ← Program.get
    let completedGeneration := s.currentGeneration execution.physicalModemId
    if completedGeneration ≠ execution.generation then
      return .failed (js "stale-generation") completedGeneration
    else match result with
      | .failed reason => return .failed reason completedGeneration
      | .reconciled => do
          Program.modify fun s => s.clearReconciliation execution.physicalModemId
          return .reconciled completedGeneration

end ModemStack.Operations
