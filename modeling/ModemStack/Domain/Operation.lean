import ModemStack.Text.JsString

/-!
Operation descriptors, completions and results, and how a completion is read.

A completion that arrives in another device generation than the one it was
requested in says nothing about the device, and neither does a write whose reply
timed out or was dropped: both are classified `unknown-outcome`
(`classifyOperationCompletion`).
-/

namespace ModemStack.Domain

open ModemStack.Text

/-- The text of a validated physical identity. Its constructor never accepts an
empty one. -/
structure PhysicalModemId where
  text : JsString
  nonempty : text ≠ []
deriving DecidableEq

/-- Lifetime of one physical enumeration. -/
abbrev DeviceGeneration := Nat

inductive OperationSupport where
  | supported
  | unsupported (reason : JsString)
deriving DecidableEq

/-- Numbers are exact rationals; bounds are finite. -/
inductive OperationConstraints (I : Type) where
  | unconstrained
  | allowedValues (values : List I)
  | numericRange (min max : Rat) (step : Option Rat)

inductive OperationAvailability where
  | available
  | unavailable (reason : JsString)
  | refused (reason : JsString)
deriving DecidableEq

inductive MutationImpact where
  | read
  | write
  | session
  | disruptive
  | recovery
deriving DecidableEq, Repr

inductive RetryClass where
  | never
  | idempotentRead
deriving DecidableEq, Repr

inductive OperationConfidence where
  | high
  | medium
  | low
  | unknown
deriving DecidableEq, Repr

inductive OperationAuthority where
  | provider
  | controller
  | hardware
deriving DecidableEq, Repr

inductive OperationRequirement where
  | notRequired
  | required (reason : JsString)
deriving DecidableEq

def OperationRequirement.isRequired : OperationRequirement → Bool
  | .notRequired => false
  | .required _ => true

inductive OperationReadback (I O : Type) where
  | notRequired
  | required (reason : JsString) (matches' : I → O → Bool)

def OperationReadback.isRequired {I O : Type} : OperationReadback I O → Bool
  | .notRequired => false
  | .required _ _ => true

structure OperationDescriptor (I O : Type) where
  id : JsString
  supportRead : OperationSupport
  supportWrite : OperationSupport
  authority : OperationAuthority
  provider : JsString
  constraints : OperationConstraints I
  livePreconditions : List JsString
  availability : OperationAvailability
  mutationImpact : MutationImpact
  retryClass : RetryClass
  readback : OperationReadback I O
  rollback : OperationRequirement
  journal : OperationRequirement
  admission : OperationRequirement
  profiles : List JsString
  firmware : List JsString
  confidence : OperationConfidence

inductive OperationCompletion (O : Type) where
  | applied (value : O)
  | refused (reason : JsString)
  | failed (reason : JsString)
  | timedOut
  | dropped

inductive UnknownOutcomeReason where
  | staleGeneration
  | writeReplyTimedOut
  | writeReplyDropped
deriving DecidableEq, Repr

inductive OperationResult (O : Type) where
  | applied (value : O) (generation : DeviceGeneration)
  | refused (reason : JsString) (generation : DeviceGeneration)
  | unknownOutcome (reason : UnknownOutcomeReason) (generation : DeviceGeneration)
  | failed (reason : JsString) (generation : DeviceGeneration)

variable {I O : Type}

namespace OperationResult

/-- Only an unknown outcome asks for a reconciliation. -/
def requiresReconciliation : OperationResult O → Bool
  | .unknownOutcome _ _ => true
  | _ => false

variable {generation : DeviceGeneration}

@[simp] theorem requiresReconciliation_applied {value : O} :
    (applied value generation).requiresReconciliation = false := rfl

@[simp] theorem requiresReconciliation_refused {reason : JsString} :
    (refused reason generation : OperationResult O).requiresReconciliation = false := rfl

@[simp] theorem requiresReconciliation_failed {reason : JsString} :
    (failed reason generation : OperationResult O).requiresReconciliation = false := rfl

@[simp] theorem requiresReconciliation_unknownOutcome {reason : UnknownOutcomeReason} :
    (unknownOutcome reason generation : OperationResult O).requiresReconciliation = true := rfl

end OperationResult

inductive OperationKind where
  | read
  | write
deriving DecidableEq, Repr

/-- Reads are what a read descriptor asks for; every other impact is a write. -/
def OperationDescriptor.kind (descriptor : OperationDescriptor I O) : OperationKind :=
  match descriptor.mutationImpact with
  | .read => .read
  | _ => .write

theorem kind_write {descriptor : OperationDescriptor I O} (isWrite : descriptor.kind = .write) :
    descriptor.mutationImpact ≠ .read := by
  intro isRead
  simp [OperationDescriptor.kind, isRead] at isWrite

/-- Apply generation and write-reply uncertainty before a completion is exposed. -/
def classifyOperationCompletion (operation : OperationKind)
    (completionGeneration currentGeneration : DeviceGeneration)
    (completion : OperationCompletion O) : OperationResult O :=
  if completionGeneration ≠ currentGeneration then
    .unknownOutcome .staleGeneration completionGeneration
  else match completion with
    | .applied value => .applied value completionGeneration
    | .refused reason => .refused reason completionGeneration
    | .failed reason => .failed reason completionGeneration
    | .timedOut =>
      if operation = .write then .unknownOutcome .writeReplyTimedOut completionGeneration
      else .failed (js "read-reply-timed-out") completionGeneration
    | .dropped =>
      if operation = .write then .unknownOutcome .writeReplyDropped completionGeneration
      else .failed (js "read-reply-dropped") completionGeneration

/-- What a completion leaves unknown: everything after a change of generation,
and a write whose reply never came. -/
def OperationCompletion.Uncertain (operation : OperationKind)
    (completionGeneration currentGeneration : DeviceGeneration)
    (completion : OperationCompletion O) : Prop :=
  completionGeneration ≠ currentGeneration ∨
    operation = .write ∧ (completion = .timedOut ∨ completion = .dropped)

theorem classify_requiresReconciliation {operation : OperationKind}
    {completionGeneration currentGeneration : DeviceGeneration}
    {completion : OperationCompletion O} :
    (classifyOperationCompletion operation completionGeneration currentGeneration
        completion).requiresReconciliation = true ↔
      completion.Uncertain operation completionGeneration currentGeneration := by
  unfold classifyOperationCompletion OperationCompletion.Uncertain
  by_cases stale : completionGeneration = currentGeneration
  · cases completion <;> cases operation <;> simp [stale]
  · simp [stale]

/-- Automatic retries are for explicitly classified idempotent reads. -/
def canAutoRetry (descriptor : OperationDescriptor I O) : OperationResult O → Bool
  | .failed _ _ => descriptor.mutationImpact = .read ∧ descriptor.supportRead = .supported ∧
      descriptor.retryClass = .idempotentRead
  | _ => false

theorem canAutoRetry_write {descriptor : OperationDescriptor I O} {result : OperationResult O}
    (isWrite : descriptor.kind = .write) : canAutoRetry descriptor result = false := by
  cases result <;> simp [canAutoRetry, kind_write isWrite]

end ModemStack.Domain
