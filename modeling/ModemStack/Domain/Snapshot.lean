import ModemStack.Domain.State
import ModemStack.Text.Json

/-!
Snapshots of one modem, and the guards against impossible ones.

The guards are six checks over the dimensions, and the first violation names its
code and the values it is about. Building, advancing and superseding a snapshot
all run the checks; superseding also asks for a greater revision.
-/

namespace ModemStack.Domain

open ModemStack.Text

/-- A state without its revision. -/
structure SnapshotFields where
  identity : ModemIdentity
  presence : Presence
  sourceHealth : SourceHealth
  simSlots : List SimSlot
  radioPower : RadioPower
  mmState : MmState
  registration : Registration
  nmActivation : NmActivation
  dataInterface : DataInterface
  reconcileStatus : ReconcileStatus
  recoveryState : RecoveryState
deriving DecidableEq

/-- Revisions are natural; `nextRevision` is the successor. -/
abbrev Revision := Nat

structure CellularSnapshot extends SnapshotFields where
  revision : Revision
deriving DecidableEq

/-! ### Guards -/

inductive ImpossibleStateCode where
  | registeredWhileAbsent
  | registeredRadioOff
  | registeredEmptyRatSet
  | activeStateWhileAbsent
  | radioOffWhileActive
  | nmActivatedWhileAbsent
  | nmActivatedWithoutInterface
  | nmActivatedWithoutMmConnected
  | multipleActiveSimSlots
  | lockedSimInEmptySlot
  | mmLockedWithoutSimLock
  | dataInterfaceNameWithoutPresence
  | recoveryAttemptsNegative
  | recoveryCooldownStageMismatch
  | recoveryIdleWithAttempts
deriving DecidableEq

/-- A violated rule, and the values that violate it. -/
structure Violation where
  code : ImpossibleStateCode
  detail : JsString
deriving DecidableEq

/-- An integer in a template string. -/
def printInt : Int → JsString
  | .ofNat n => printNat n
  | .negSucc n => js "-" ++ printNat (n + 1)

def checkRegistration (s : SnapshotFields) : Option Violation :=
  let detail := js "status=" ++ s.registration.status.text
  if isRegistered s.registration.status = false then none
  else if s.presence = .absent then some ⟨.registeredWhileAbsent, detail⟩
  else if s.radioPower = .off then some ⟨.registeredRadioOff, detail⟩
  else if s.registration.activeRats = [] then some ⟨.registeredEmptyRatSet, detail⟩
  else none

def radioIsOnTheAir (s : SnapshotFields) : Bool :=
  s.mmState.requiresRadio || s.registration.status = .searching ||
    s.nmActivation = .activating || s.nmActivation = .activated

def checkRadioAndPresence (s : SnapshotFields) : Option Violation :=
  let detail := js "mmState=" ++ s.mmState.text
  if s.mmState.requiresRadio ∧ s.presence = .absent then some ⟨.activeStateWhileAbsent, detail⟩
  else if s.radioPower = .off ∧ radioIsOnTheAir s then some ⟨.radioOffWhileActive, detail⟩
  else none

def checkNmActivation (s : SnapshotFields) : Option Violation :=
  if s.nmActivation ≠ .activated then none
  else if s.presence = .absent then
    some ⟨.nmActivatedWhileAbsent, js "nmActivation=activated"⟩
  else if s.dataInterface.present = false then
    some ⟨.nmActivatedWithoutInterface, js "nmActivation=activated"⟩
  else if s.mmState ≠ .connected then
    some ⟨.nmActivatedWithoutMmConnected, js "mmState=" ++ s.mmState.text⟩
  else none

/-- A locked card in a slot that has none. -/
def lockedEmptySlot (slot : SimSlot) : Bool := !slot.occupied && slot.lock.requiresCard

def lockedCard (slot : SimSlot) : Bool := slot.occupied && slot.lock.requiresCard

def checkSimSlots (s : SnapshotFields) : Option Violation :=
  let activeCount := s.simSlots.countP (·.active)
  match s.simSlots.find? lockedEmptySlot with
  | some slot =>
    some ⟨.lockedSimInEmptySlot,
      js "slot=" ++ printNat slot.index ++ js " lock=" ++ slot.lock.text⟩
  | none =>
    if activeCount > 1 then some ⟨.multipleActiveSimSlots, js "active=" ++ printNat activeCount⟩
    else if s.mmState = .locked ∧ s.simSlots.any lockedCard = false then
      some ⟨.mmLockedWithoutSimLock, js "mmState=locked"⟩
    else none

def checkDataInterface (s : SnapshotFields) : Option Violation :=
  match s.dataInterface.present, s.dataInterface.name with
  | false, some name => some ⟨.dataInterfaceNameWithoutPresence, js "name=" ++ name⟩
  | _, _ => none

def maxSafeInteger : Int := 2 ^ 53 - 1

def isSafeInteger (n : Int) : Bool := -maxSafeInteger ≤ n && n ≤ maxSafeInteger

def checkRecovery (s : SnapshotFields) : Option Violation :=
  let recovery := s.recoveryState
  let attempts := js "attempts=" ++ printInt recovery.attempts
  if isSafeInteger recovery.attempts = false ∨ recovery.attempts < 0 then
    some ⟨.recoveryAttemptsNegative, attempts⟩
  else if recovery.cooldownUntil.isSome ≠ decide (recovery.stage = .cooldown) then
    some ⟨.recoveryCooldownStageMismatch, js "stage=" ++ recovery.stage.text⟩
  else if recovery.stage = .idle ∧ recovery.attempts ≠ 0 then
    some ⟨.recoveryIdleWithAttempts, attempts⟩
  else none

def checks : List (SnapshotFields → Option Violation) := [
  checkRegistration, checkRadioAndPresence, checkNmActivation, checkSimSlots,
  checkDataInterface, checkRecovery]

/-- The first violation. -/
def violation (s : SnapshotFields) : Option Violation := checks.findSome? fun check => check s

def checkSnapshot (s : SnapshotFields) : Option ImpossibleStateCode :=
  (violation s).map Violation.code

/-! ### Building and advancing -/

inductive SnapshotError where
  | domain (error : DomainError)
  | impossibleState (violation : Violation)
  | revisionMonotonicity (previous next : Revision)
deriving DecidableEq

def assertSnapshot (s : SnapshotFields) : Except SnapshotError Unit :=
  match violation s with
  | none => .ok ()
  | some found => .error (.impossibleState found)

def createSnapshot (fields : CellularSnapshot) : Except SnapshotError CellularSnapshot := do
  assertSnapshot fields.toSnapshotFields
  return fields

def nextRevision (current : Revision) : Revision := current + 1

/-- A partial update of the dimensions. -/
structure SnapshotPatch where
  identity : Option ModemIdentity
  presence : Option Presence
  sourceHealth : Option SourceHealth
  simSlots : Option (List SimSlot)
  radioPower : Option RadioPower
  mmState : Option MmState
  registration : Option Registration
  nmActivation : Option NmActivation
  dataInterface : Option DataInterface
  reconcileStatus : Option ReconcileStatus
  recoveryState : Option RecoveryState

def SnapshotPatch.empty : SnapshotPatch :=
  ⟨none, none, none, none, none, none, none, none, none, none, none⟩

def SnapshotPatch.apply (patch : SnapshotPatch) (s : SnapshotFields) : SnapshotFields where
  identity := patch.identity.getD s.identity
  presence := patch.presence.getD s.presence
  sourceHealth := patch.sourceHealth.getD s.sourceHealth
  simSlots := patch.simSlots.getD s.simSlots
  radioPower := patch.radioPower.getD s.radioPower
  mmState := patch.mmState.getD s.mmState
  registration := patch.registration.getD s.registration
  nmActivation := patch.nmActivation.getD s.nmActivation
  dataInterface := patch.dataInterface.getD s.dataInterface
  reconcileStatus := patch.reconcileStatus.getD s.reconcileStatus
  recoveryState := patch.recoveryState.getD s.recoveryState

def applyTransition (prev : CellularSnapshot) (patch : SnapshotPatch) :
    Except SnapshotError CellularSnapshot := do
  let next : CellularSnapshot :=
    { patch.apply prev.toSnapshotFields with revision := nextRevision prev.revision }
  assertSnapshot next.toSnapshotFields
  return next

def supersede (prev next : CellularSnapshot) : Except SnapshotError CellularSnapshot :=
  if next.revision ≤ prev.revision then
    .error (.revisionMonotonicity prev.revision next.revision)
  else do
    assertSnapshot next.toSnapshotFields
    return next

def markSourceUnavailable (prev : CellularSnapshot) : Except SnapshotError CellularSnapshot :=
  applyTransition prev { SnapshotPatch.empty with sourceHealth := some .sourceUnavailable }

/-! ### Valid snapshots -/

/-- No guard rejects the state. -/
def SnapshotFields.Valid (s : SnapshotFields) : Prop := violation s = none

theorem assertSnapshot_ok_iff {s : SnapshotFields} : assertSnapshot s = .ok () ↔ s.Valid := by
  unfold assertSnapshot SnapshotFields.Valid
  cases violation s <;> simp

theorem createSnapshot_ok_iff {fields s : CellularSnapshot} :
    createSnapshot fields = .ok s ↔ fields.Valid ∧ s = fields := by
  unfold createSnapshot
  cases checked : assertSnapshot fields.toSnapshotFields with
  | error =>
    have invalid : ¬ fields.Valid := by
      intro valid
      rw [assertSnapshot_ok_iff.mpr valid] at checked
      cases checked
    simp [invalid, bind, Except.bind]
  | ok =>
    have valid : fields.Valid := assertSnapshot_ok_iff.mp checked
    simp [valid, bind, Except.bind, pure, Except.pure, eq_comm]

/-- The guards do not look at the source health. -/
theorem valid_sourceHealth {s : SnapshotFields} (health : SourceHealth) :
    SnapshotFields.Valid { s with sourceHealth := health } ↔ s.Valid := Iff.rfl

/-- The source of a valid snapshot can always be marked unavailable. -/
theorem markSourceUnavailable_ok {s : CellularSnapshot} (valid : s.Valid) :
    markSourceUnavailable s = .ok
      { s with sourceHealth := .sourceUnavailable, revision := s.revision + 1 } := by
  have still : assertSnapshot { s.toSnapshotFields with sourceHealth := .sourceUnavailable } =
    .ok () := assertSnapshot_ok_iff.mpr ((valid_sourceHealth _).mpr valid)
  unfold markSourceUnavailable applyTransition
  simp only [SnapshotPatch.apply, SnapshotPatch.empty, Option.getD_none, Option.getD_some, still,
    nextRevision]
  rfl

/-- A valid successor with a greater revision is accepted. -/
theorem supersede_ok_iff {prev next s : CellularSnapshot} :
    supersede prev next = .ok s ↔ prev.revision < next.revision ∧ next.Valid ∧ s = next := by
  unfold supersede
  split_ifs with stale
  · simp [Nat.not_lt.mpr stale]
  · have fresh := Nat.lt_of_not_le stale
    have same : (do assertSnapshot next.toSnapshotFields; return next) =
      createSnapshot next := rfl
    rw [same, createSnapshot_ok_iff]
    simp [fresh]

end ModemStack.Domain
