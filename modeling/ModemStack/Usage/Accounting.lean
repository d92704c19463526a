import Mathlib.Algebra.Order.Ring.Rat
import ModemStack.Data.OrderedMap
import ModemStack.Domain.Policy
import ModemStack.Usage.BillingCycle

/-!
Usage accounting: one observation of a slot folded into its account, and the sampling
pass that does so for every observation.

Byte counts are exact: counters and totals are rationals, not rounded to binary64.
-/

namespace ModemStack.Usage

open ModemStack.Data ModemStack.Domain ModemStack.Text

/-! ### Accounts -/

structure BaselineKey where
  logicalSlotId : JsString
  mappingGeneration : Rat
  ifname : JsString
  bootId : JsString
deriving DecidableEq

/-- `key` and `lastObserved` are unset before the first sample. -/
structure SlotAccount where
  cycleBytes : Rat
  cycleStartMs : Double
  paused : Bool
  key : Option BaselineKey
  lastObserved : Option Rat
deriving DecidableEq

structure SampleInput where
  key : BaselineKey
  current : Rat
  confidence : IdentityConfidence
  cycleStartMs : Double

def initialAccount (cycleStartMs : Double) : SlotAccount where
  cycleBytes := 0
  cycleStartMs := cycleStartMs
  paused := false
  key := none
  lastObserved := none

def sameBaselineKey (a b : BaselineKey) : Bool :=
  a.logicalSlotId = b.logicalSlotId && a.mappingGeneration = b.mappingGeneration &&
    a.ifname = b.ifname && a.bootId = b.bootId

theorem sameBaselineKey_iff {a b : BaselineKey} : sameBaselineKey a b = true ↔ a = b := by
  obtain ⟨slot, generation, ifname, boot⟩ := a
  obtain ⟨slot', generation', ifname', boot'⟩ := b
  simp [sameBaselineKey, and_assoc]

def rollCycle (account : SlotAccount) (cycleStartMs : Double) : SlotAccount :=
  if account.cycleStartMs.lt cycleStartMs then
    { account with cycleBytes := 0, cycleStartMs := cycleStartMs }
  else account

def applySample (prior : Option SlotAccount) (input : SampleInput) : SlotAccount :=
  let base := rollCycle (prior.getD (initialAccount input.cycleStartMs)) input.cycleStartMs
  let rebased := { base with
    paused := false, key := some input.key, lastObserved := some input.current }
  if input.confidence = .low then
    { cycleBytes := base.cycleBytes
      cycleStartMs := base.cycleStartMs
      paused := true
      key := none
      lastObserved := none }
  else
    match base.paused, base.key, base.lastObserved with
    | false, some key, some lastObserved =>
      if !sameBaselineKey key input.key then rebased
      else if input.current < lastObserved then rebased
      else { rebased with cycleBytes := base.cycleBytes + (input.current - lastObserved) }
    | _, _, _ => rebased

/-! ### Rates -/

/-- `bytesPerSecond` is absent whenever there was no interval to measure. -/
structure SlotRate where
  sampledAtMs : Nat
  bytesPerSecond : Option Rat

def measureRate (prior : Option SlotAccount) (priorRate : Option SlotRate) (key : BaselineKey)
    (current : Rat) (confidence : IdentityConfidence) (now : Nat) : SlotRate :=
  let unmeasured : SlotRate := ⟨now, none⟩
  if confidence = .low then unmeasured
  else
    match prior with
    | some ⟨_, _, false, some priorKey, some lastObserved⟩ =>
      if !sameBaselineKey priorKey key then unmeasured
      else
        match priorRate with
        | none => unmeasured
        | some priorRate =>
          if current < lastObserved then unmeasured
          else
            let elapsedMs : Int := now - priorRate.sampledAtMs
            if elapsedMs ≤ 0 then unmeasured
            else ⟨now, some ((current - lastObserved) * 1000 / elapsedMs)⟩
    | _ => unmeasured

/-! ### Sampling -/

structure UsageObservation where
  logicalSlotId : JsString
  mappingGeneration : Rat
  ifname : JsString
  confidence : IdentityConfidence
  usage : DesiredUsage

structure UsageSamplingState where
  bootId : JsString
  defaultCycleDay : Double
  accounts : OrderedMap JsString SlotAccount
  policies : OrderedMap JsString DesiredUsage
  policyOverrides : OrderedMap JsString DesiredUsage
  rates : OrderedMap JsString SlotRate

/-- The cumulative bytes of every interface. -/
abbrev Counters := OrderedMap JsString Rat

/-- The body of the loop of a sampling pass. -/
def applyUsageSample (counters : Counters) (now : Nat) (state : UsageSamplingState)
    (observation : UsageObservation) : UsageSamplingState :=
  let slotId := observation.logicalSlotId
  let usage := (state.policyOverrides.get slotId).getD observation.usage
  let policies := state.policies.set slotId usage
  let cycleStartMs := cycleStart now (usage.cycleDay.getD state.defaultCycleDay)
  let prior := state.accounts.get slotId
  match counters.get observation.ifname with
  | none =>
    { state with
      policies
      accounts := if prior.isNone then state.accounts.set slotId (initialAccount cycleStartMs)
        else state.accounts
      rates := state.rates.filter fun key => key ≠ slotId }
  | some current =>
    let key : BaselineKey :=
      ⟨slotId, observation.mappingGeneration, observation.ifname, state.bootId⟩
    let rate := measureRate prior (state.rates.get slotId) key current observation.confidence now
    { state with
      policies
      rates := state.rates.set slotId rate
      accounts := state.accounts.set slotId
        (applySample prior ⟨key, current, observation.confidence, cycleStartMs⟩) }

def applyUsageSamples (state : UsageSamplingState) (observations : List UsageObservation)
    (counters : Counters) (now : Nat) : UsageSamplingState :=
  observations.foldl (applyUsageSample counters now) state

/-! ### What one observation does to an account -/

/-- What accounting sees of an observation; no `current` where the interface is not in the
counter table. -/
structure Sight where
  key : BaselineKey
  confidence : IdentityConfidence
  current : Option Rat
  cycleStartMs : Double

def UsageSamplingState.sight (state : UsageSamplingState) (counters : Counters) (now : Nat)
    (observation : UsageObservation) : Sight :=
  let usage := (state.policyOverrides.get observation.logicalSlotId).getD observation.usage
  { key := ⟨observation.logicalSlotId, observation.mappingGeneration, observation.ifname,
      state.bootId⟩
    confidence := observation.confidence
    current := counters.get observation.ifname
    cycleStartMs := cycleStart now (usage.cycleDay.getD state.defaultCycleDay) }

/-- The account after a sight of its slot. -/
def account (prior : Option SlotAccount) (sight : Sight) : SlotAccount :=
  match sight.current with
  | none => prior.getD (initialAccount sight.cycleStartMs)
  | some current => applySample prior ⟨sight.key, current, sight.confidence, sight.cycleStartMs⟩

section Step

variable (counters : Counters) (now : Nat) (state : UsageSamplingState)
  (observation : UsageObservation)

/-- An observation touches the account of its own slot only. -/
theorem accounts_applyUsageSample (slotId : JsString) :
    (applyUsageSample counters now state observation).accounts.get slotId =
      if slotId = observation.logicalSlotId then
        some (account (state.accounts.get slotId) (state.sight counters now observation))
      else state.accounts.get slotId := by
  unfold applyUsageSample account UsageSamplingState.sight
  cases counters.get observation.ifname with
  | some =>
    by_cases same : slotId = observation.logicalSlotId
    · subst same
      simp
    · simp [same]
  | none =>
    by_cases same : slotId = observation.logicalSlotId
    · subst same
      cases known : state.accounts.get observation.logicalSlotId <;> simp [known]
    · cases known : state.accounts.get observation.logicalSlotId <;> simp [known, same]

/-- What passes do not change. -/
theorem constants_applyUsageSample :
    (applyUsageSample counters now state observation).bootId = state.bootId ∧
      (applyUsageSample counters now state observation).defaultCycleDay =
        state.defaultCycleDay ∧
      (applyUsageSample counters now state observation).policyOverrides =
        state.policyOverrides := by
  unfold applyUsageSample
  cases counters.get observation.ifname <;> exact ⟨rfl, rfl, rfl⟩

end Step

/-! ### Runs of sampling passes -/

/-- The account a history, newest first, leads to from `prior`. -/
def accountFrom (prior : Option SlotAccount) : List Sight → Option SlotAccount
  | [] => prior
  | sight :: before => some (account (accountFrom prior before) sight)

structure SamplingPass where
  now : Nat
  counters : Counters
  observations : List UsageObservation

def UsageSamplingState.pass (state : UsageSamplingState) (pass : SamplingPass) :
    UsageSamplingState :=
  applyUsageSamples state pass.observations pass.counters pass.now

/-- One observation of a pass. -/
structure Sighting where
  now : Nat
  counters : Counters
  observation : UsageObservation

def UsageSamplingState.see (state : UsageSamplingState) (s : Sighting) : UsageSamplingState :=
  applyUsageSample s.counters s.now state s.observation

/-- The observations of a run, in order. -/
def sightings (passes : List SamplingPass) : List Sighting :=
  passes.flatMap fun pass => pass.observations.map fun observation =>
    ⟨pass.now, pass.counters, observation⟩

/-- What a run's observations are to a slot, newest first. -/
def UsageSamplingState.history (state : UsageSamplingState) (slotId : JsString)
    (seen : List Sighting) : List Sight :=
  ((seen.filter fun s => s.observation.logicalSlotId = slotId).map fun s =>
    state.sight s.counters s.now s.observation).reverse

section Runs

variable {state : UsageSamplingState} {slotId : JsString}

theorem foldl_pass (passes : List SamplingPass) : passes.foldl UsageSamplingState.pass state =
    (sightings passes).foldl UsageSamplingState.see state := by
  rw [sightings, List.foldl_flatMap]
  congr 1
  funext state pass
  rw [List.foldl_map]
  rfl

theorem history_snoc (seen : List Sighting) (s : Sighting) :
    state.history slotId (seen ++ [s]) =
      if s.observation.logicalSlotId = slotId then
        state.sight s.counters s.now s.observation :: state.history slotId seen
      else state.history slotId seen := by
  simp only [UsageSamplingState.history, List.filter_append, List.map_append,
    List.reverse_append]
  by_cases same : s.observation.logicalSlotId = slotId <;> simp [same]

theorem constants_foldl_see (seen : List Sighting) :
    (seen.foldl UsageSamplingState.see state).bootId = state.bootId ∧
      (seen.foldl UsageSamplingState.see state).defaultCycleDay = state.defaultCycleDay ∧
      (seen.foldl UsageSamplingState.see state).policyOverrides = state.policyOverrides := by
  induction seen using List.reverseRecOn with
  | nil => exact ⟨rfl, rfl, rfl⟩
  | append_singleton seen s ih =>
    rw [List.foldl_concat]
    obtain ⟨boot, day, overrides⟩ := constants_applyUsageSample s.counters s.now
      (seen.foldl UsageSamplingState.see state) s.observation
    exact ⟨boot.trans ih.1, day.trans ih.2.1, overrides.trans ih.2.2⟩

/-- A slot's account is that of its history. -/
theorem accounts_foldl_see (seen : List Sighting) :
    (seen.foldl UsageSamplingState.see state).accounts.get slotId =
      accountFrom (state.accounts.get slotId) (state.history slotId seen) := by
  induction seen using List.reverseRecOn with
  | nil => rfl
  | append_singleton seen s ih =>
    obtain ⟨boot, day, overrides⟩ := @constants_foldl_see state seen
    have sight : (seen.foldl UsageSamplingState.see state).sight s.counters s.now
        s.observation = state.sight s.counters s.now s.observation := by
      simp only [UsageSamplingState.sight, boot, day, overrides]
    rw [List.foldl_concat, UsageSamplingState.see, accounts_applyUsageSample, history_snoc,
      sight]
    by_cases same : slotId = s.observation.logicalSlotId
    · subst same
      rw [if_pos rfl, if_pos rfl, ih]
      rfl
    · rw [if_neg same, if_neg (Ne.symm same), ih]

end Runs

end ModemStack.Usage
