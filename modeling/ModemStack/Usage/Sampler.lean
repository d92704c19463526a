import ModemStack.Storage.AtomicFile
import ModemStack.Usage.ConfidentBytes
import ModemStack.Usage.Persistence

/-!
The usage sampler: sampling passes, policies an operator writes and flushes, as tasks of one
event loop that share the accounts and the stored document.
-/

namespace ModemStack.Usage

open ModemStack.Async ModemStack.Async.Program ModemStack.Domain
  ModemStack.Storage ModemStack.Text

/-! ### Policies -/

structure UsagePolicyApplicationResult where
  cycleStartMs : Double
  cycleReset : Bool
  dirty : Bool

def applyPolicy (state : UsageSamplingState) (logicalSlotId : JsString) (usage : DesiredUsage)
    (now : Nat) : UsageSamplingState × UsagePolicyApplicationResult :=
  let cycleStartMs := cycleStart now (usage.cycleDay.getD state.defaultCycleDay)
  let state := { state with
    policyOverrides := state.policyOverrides.set logicalSlotId usage
    policies := state.policies.set logicalSlotId usage }
  let put account := { state with accounts := state.accounts.set logicalSlotId account }
  match state.accounts.get logicalSlotId with
  | none => (put (initialAccount cycleStartMs), ⟨cycleStartMs, false, true⟩)
  | some account =>
    if account.cycleStartMs.same cycleStartMs then (state, ⟨cycleStartMs, false, false⟩)
    else (put { account with cycleBytes := 0, cycleStartMs }, ⟨cycleStartMs, true, true⟩)

/-- A policy that is not dirty leaves the accounts. -/
theorem applyPolicy_clean {state : UsageSamplingState} {slotId : JsString} {usage : DesiredUsage}
    {now : Nat} (clean : (applyPolicy state slotId usage now).2.dirty = false) :
    (applyPolicy state slotId usage now).1.bootId = state.bootId ∧
      (applyPolicy state slotId usage now).1.accounts = state.accounts := by
  unfold applyPolicy at clean ⊢
  cases known : state.accounts.get slotId with
  | none => simp [known] at clean
  | some account =>
    by_cases unmoved : account.cycleStartMs.same
        (cycleStart now (usage.cycleDay.getD state.defaultCycleDay)) = true
    · simp [known, unmoved]
    · simp [known, unmoved] at clean

/-! ### What the passes attribute -/

/-- The counters a read found at a moment, and the clock when the read resolved. -/
structure Counted where
  counters : Counters
  moment : Nat
  now : Nat

/-- A pass added bytes of an interface to a slot: those counted between two moments. -/
structure Attribution where
  slotId : JsString
  ifname : JsString
  since : Nat
  upTo : Nat
deriving DecidableEq

/-- What is recorded of the passes: the moment of the last confident reading of each slot
and interface (0 before the first), and what has been attributed, newest first. -/
structure Ledger where
  readAt : JsString × JsString → Nat
  attributions : List Attribution

def Ledger.blank : Ledger := ⟨fun _ => 0, []⟩

/-- The bytes an observation adds to its slot's account, beside a new cycle's reset. -/
def UsageSamplingState.added (state : UsageSamplingState) (counted : Counted)
    (observation : UsageObservation) : Rat :=
  let sight := state.sight counted.counters counted.now observation
  increase sight ((state.accounts.get observation.logicalSlotId).bind fun account =>
    account.baseline sight.key)

def Ledger.note (ledger : Ledger) (state : UsageSamplingState) (counted : Counted)
    (observation : UsageObservation) : Ledger :=
  let reading := (observation.logicalSlotId, observation.ifname)
  if observation.confidence = .low ∨ counted.counters.get observation.ifname = none then ledger
  else
    { readAt := Function.update ledger.readAt reading counted.moment
      attributions :=
        if 0 < state.added counted observation then
          ⟨reading.1, reading.2, ledger.readAt reading, counted.moment⟩ :: ledger.attributions
        else ledger.attributions }

/-- `applyUsageSamples`, recorded. -/
def recordSamples (counted : Counted) (observations : List UsageObservation)
    (state : UsageSamplingState × Ledger) : UsageSamplingState × Ledger :=
  observations.foldl (fun state observation =>
    (applyUsageSample counted.counters counted.now state.1 observation,
      state.2.note state.1 counted observation)) state

/-- What a reading is recorded to add is what the account gains. -/
theorem cycleBytes_account {state : UsageSamplingState} {counted : Counted}
    {observation : UsageObservation} {current : Rat}
    (read : counted.counters.get observation.ifname = some current) :
    let sight := state.sight counted.counters counted.now observation
    let prior := state.accounts.get observation.logicalSlotId
    (account prior sight).cycleBytes =
      (rollCycle (prior.getD (initialAccount sight.cycleStartMs)) sight.cycleStartMs).cycleBytes +
        state.added counted observation := by
  intro sight prior
  have isCurrent : sight.current = some current := read
  obtain ⟨-, bytes, -⟩ :=
    applySample_spec prior ⟨sight.key, current, sight.confidence, sight.cycleStartMs⟩
  rw [account, isCurrent]
  simp only [UsageSamplingState.added] at bytes ⊢
  rw [bytes, baseline_rollCycle, ← isCurrent]
  cases known : prior with
  | none => simp [prior, known, initialAccount, SlotAccount.baseline, sight]
  | some => simp [prior, known, sight]

/-! ### The sampler -/

/-- The sampler and its file. Recorded beside them: the tasks whose save is in flight, how
many updates have been made, how many the last flush to resolve had seen, and the ledger. -/
structure UsageSampler where
  sampling : UsageSamplingState
  lastPersistMs : Nat
  dirty : Bool
  disk : Disk PersistedUsage
  saving : List Nat
  updates : Nat
  flushed : Option Nat
  ledger : Ledger

inductive SamplerCall where
  | read
  -- a save of `state` returns to the sampler
  | saved (state : PersistedUsage) (succeeded : Bool)

abbrev SamplerCall.Answer : SamplerCall → Type
  | .read => Counted
  | .saved _ _ => Unit

abbrev SamplerOp := FileCall PersistedUsage ⊕ SamplerCall

abbrev SamplerOp.Answer : SamplerOp → Type := Sum.elim FileCall.Answer SamplerCall.Answer

abbrev SamplerProgram := Program UsageSampler SamplerOp SamplerOp.Answer JsString

inductive UsageCall where
  | sample (observations : List UsageObservation)
  | applyUsagePolicy (logicalSlotId : JsString) (usage : DesiredUsage) (atMs : Nat)
  -- `now` is what the clock says
  | flush (now : Nat)

namespace UsageSampler

def mount : Mount UsageSampler PersistedUsage where
  disk := UsageSampler.disk
  modify change s := { s with disk := change s.disk }
  disk_modify _ _ := rfl

def opened (task : Nat) (s : UsageSampler) : UsageSampler :=
  { s with saving := task :: s.saving }

def closed (task : Nat) (s : UsageSampler) : UsageSampler :=
  { s with saving := s.saving.filter fun other => other ≠ task }

def persisted (now : Nat) (s : UsageSampler) : UsageSampler :=
  { s with lastPersistMs := now, dirty := false }

def resolved (s : UsageSampler) : UsageSampler :=
  { s with flushed := some s.updates }

def observed (observations : List UsageObservation) (counted : Counted) (s : UsageSampler) :
    UsageSampler :=
  let recorded := recordSamples counted observations (s.sampling, s.ledger)
  { s with
    sampling := recorded.1, ledger := recorded.2, dirty := true, updates := s.updates + 1 }

def applied (slotId : JsString) (usage : DesiredUsage) (atMs : Nat) (s : UsageSampler) :
    UsageSampler :=
  let result := applyPolicy s.sampling slotId usage atMs
  { s with
    sampling := result.1
    dirty := s.dirty || result.2.dirty
    updates := s.updates + result.2.dirty.toNat }

def persist (task now : Nat) : SamplerProgram Unit := do
  let s ← get
  let state := persistedUsageState s.sampling.bootId now s.sampling.accounts
  modify (opened task)
  let outcome ← attempt (writeAtomic mount state).inl
  yield (.inr (.saved state outcome.isOk))
  modify (closed task)
  ofExcept outcome
  modify (persisted now)

section

variable (persistIntervalMs : Nat)

/-- The rate limit of `maybePersist` lets a save begin. -/
def Due (now : Nat) (s : UsageSampler) : Prop :=
  (persistIntervalMs : Int) ≤ (now : Int) - s.lastPersistMs

instance (now : Nat) (s : UsageSampler) : Decidable (s.Due persistIntervalMs now) :=
  inferInstanceAs (Decidable (_ ≤ _))

def maybePersist (task now : Nat) : SamplerProgram Unit := do
  let s ← get
  if s.Due persistIntervalMs now then persist task now

def readCounters : SamplerProgram Counted := perform (.inr .read : SamplerOp)

def sample (task : Nat) (observations : List UsageObservation) : SamplerProgram Unit := do
  let counted ← readCounters
  modify (observed observations counted)
  maybePersist persistIntervalMs task counted.now

def flush (task now : Nat) : SamplerProgram Unit := do
  let s ← get
  if s.dirty then persist task now
  modify resolved

def body (task : Nat) : UsageCall → SamplerProgram Unit
  | .sample observations => sample persistIntervalMs task observations
  | .applyUsagePolicy slotId usage atMs => modify (applied slotId usage atMs)
  | .flush now => flush task now

end

/-- A sampler as `create` builds it on what the store loaded. -/
def create (bootId : JsString) (defaultCycleDay : Double) (now : Nat) (initial : PersistedUsage)
    (disk : Disk PersistedUsage) : UsageSampler where
  sampling :=
    { bootId
      defaultCycleDay
      accounts := hydrateUsageAccounts initial bootId
      policies := .empty
      policyOverrides := .empty
      rates := .empty }
  lastPersistMs := now
  dirty := false
  disk := disk
  saving := []
  updates := 0
  flushed := none
  ledger := .blank

end UsageSampler

end ModemStack.Usage
