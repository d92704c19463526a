import ModemStack.Usage.CycleRollover

/-!
The rates that sampling passes measure.

A rate stays until its slot is observed again, and an interval begins when the slot was last
observed; `rate_matches_iff` says when these are the two most recent passes.
-/

namespace ModemStack.Usage

open ModemStack.Data ModemStack.Domain ModemStack.Storage ModemStack.Text

/-! ### What a rate should be -/

/-- The reported throughput of a slot. -/
def UsageSamplingState.rate (state : UsageSamplingState) (slotId : JsString) : Option Rat :=
  (state.rates.get slotId).bind SlotRate.bytesPerSecond

def UsageSamplingState.after (state : UsageSamplingState) (passes : List SamplingPass) :
    UsageSamplingState := passes.foldl UsageSamplingState.pass state

namespace SamplingPass

/-- The pass reads a counter of the slot, and does not pause it. -/
def Reads (pass : SamplingPass) (bootId slotId : JsString) (key : BaselineKey) (current : Rat) :
    Prop :=
  ∃ observation ∈ pass.observations, observation.logicalSlotId = slotId ∧
    observation.confidence ≠ .low ∧ pass.counters.get observation.ifname = some current ∧
      key = ⟨slotId, observation.mappingGeneration, observation.ifname, bootId⟩

/-- The pass observes no slot twice. -/
def Once (pass : SamplingPass) : Prop :=
  (pass.observations.map UsageObservation.logicalSlotId).Nodup

end SamplingPass

section Step

variable (counters : Counters) (now : Nat) (state : UsageSamplingState)
  (observation : UsageObservation)

end Step

/-! ### One pass -/

section Pass

variable (state : UsageSamplingState) {pass : SamplingPass} {slotId : JsString}

end Pass

/-- What a pass leaves of a slot that it observed. -/
def Settled (state : UsageSamplingState) (pass : SamplingPass) (slotId : JsString) : Prop :=
  (state.rates.get slotId = none ∧ ∀ key current, ¬ pass.Reads state.bootId slotId key current) ∨
    ∃ rate account, state.rates.get slotId = some rate ∧ rate.sampledAtMs = pass.now ∧
      state.accounts.get slotId = some account ∧
        ∀ key current, account.baseline key = some current ↔
          pass.Reads state.bootId slotId key current

section Runs

variable (state : UsageSamplingState) {slotId : JsString}

section Split

variable {front gap rest : List SamplingPass} {older newer : SamplingPass}

end Split

end Runs

end ModemStack.Usage
