import ModemStack.Usage.PolicyStore

/-!
`setUsagePolicy`: the request is checked, merged onto the slot's persisted policy, saved and
applied to a live sampler.
-/

namespace ModemStack.Usage

open ModemStack.Async ModemStack.Async.Program ModemStack.Storage ModemStack.Text

/-! ### Requests -/

/-- A field of a request: `undefined` leaves the persisted value alone, `null` clears it. -/
inductive Change (α : Type) where
  | keep
  | clear
  | set (value : α)

def Change.of {α : Type} (current : Option α) : Change α → Option α
  | .keep => current
  | .clear => none
  | .set value => some value

/-- `logicalSlotId` is absent where it is not a string. -/
structure SetUsagePolicyRequest where
  logicalSlotId : Option JsString
  cycleDay : Change Double
  thresholdBytes : Change Double

inductive SetUsagePolicyRejection where
  | invalidSlotId
  | invalidCycleDay
  | invalidThresholdBytes
deriving DecidableEq

/-- A request that has been checked. -/
structure UsagePolicyChange where
  logicalSlotId : SlotId
  cycleDay : Change CycleDay
  thresholdBytes : Change Nat

def Change.check {α ε : Type} (isValid : Double → Option α) (rejection : ε) :
    Change Double → Except ε (Change α)
  | .keep => .ok .keep
  | .clear => .ok .clear
  | .set value =>
    match isValid value with
    | some value => .ok (.set value)
    | none => .error rejection

def validateRequest (request : SetUsagePolicyRequest) :
    Except SetUsagePolicyRejection UsagePolicyChange := do
  let logicalSlotId : SlotId ← match request.logicalSlotId with
    | some id => if named : id ≠ [] then .ok ⟨id, named⟩ else .error .invalidSlotId
    | none => .error .invalidSlotId
  let cycleDay ← request.cycleDay.check isValidCycleDay .invalidCycleDay
  let thresholdBytes ← request.thresholdBytes.check isValidThresholdBytes .invalidThresholdBytes
  pure { logicalSlotId, cycleDay, thresholdBytes }

/-- A request that passes its check is about the slot it names, and each field has passed its own
check. -/
theorem validateRequest_ok {request : SetUsagePolicyRequest} {change : UsagePolicyChange}
    (valid : validateRequest request = .ok change) :
    request.logicalSlotId = some change.logicalSlotId.val ∧
      request.cycleDay.check isValidCycleDay SetUsagePolicyRejection.invalidCycleDay =
        .ok change.cycleDay ∧
      request.thresholdBytes.check isValidThresholdBytes
        SetUsagePolicyRejection.invalidThresholdBytes = .ok change.thresholdBytes := by
  obtain ⟨slotId, cycleDay, thresholdBytes⟩ := request
  cases slotId with
  | none => cases valid
  | some id =>
    by_cases named : id ≠ []
    · simp only [validateRequest, dif_pos named] at valid
      cases day : cycleDay.check isValidCycleDay SetUsagePolicyRejection.invalidCycleDay with
      | error =>
        rw [day] at valid
        cases valid
      | ok =>
        cases bytes : thresholdBytes.check isValidThresholdBytes
            SetUsagePolicyRejection.invalidThresholdBytes with
        | error =>
          rw [day, bytes] at valid
          cases valid
        | ok =>
          rw [day, bytes] at valid
          cases valid
          exact ⟨rfl, rfl, rfl⟩
    · simp only [validateRequest, dif_neg named] at valid
      cases valid

def mergePolicy (current : UsagePolicy) (change : UsagePolicyChange) : UsagePolicy where
  cycleDay := change.cycleDay.of current.cycleDay
  thresholdBytes := change.thresholdBytes.of current.thresholdBytes

/-! ### The write -/

/-- The rows a policy is kept in. An empty policy has none. -/
def toSlots (logicalSlotId : SlotId) (usage : UsagePolicy) : List PersistedUsagePolicySlot :=
  if usage.cycleDay = none ∧ usage.thresholdBytes = none then []
  else [{ usage with logicalSlotId }]

def PersistedUsagePolicy.withChange (nowMs : Nat) (change : UsagePolicyChange)
    (state : PersistedUsagePolicy) : PersistedUsagePolicy :=
  let usage := mergePolicy (selectUsagePolicy state change.logicalSlotId.val) change
  let others := state.slots.filter fun slot => slot.logicalSlotId.val ≠ change.logicalSlotId.val
  ⟨nowMs, others ++ toSlots change.logicalSlotId usage⟩

section Rows

variable {nowMs : Nat} {change : UsagePolicyChange} {state : PersistedUsagePolicy}

theorem rows_toSlots (logicalSlotId : SlotId) (usage : UsagePolicy) (slotId : JsString) :
    (toSlots logicalSlotId usage).filter (fun slot => slot.logicalSlotId.val = slotId) =
      if logicalSlotId.val = slotId then toSlots logicalSlotId usage else [] := by
  unfold toSlots
  split_ifs with unset same same <;> simp [same]

/-- The policy of a slot is read back from its rows. -/
theorem head_toSlots (logicalSlotId : SlotId) (usage : UsagePolicy) :
    ((toSlots logicalSlotId usage).head?.map (·.toUsagePolicy)).getD ⟨none, none⟩ = usage := by
  obtain ⟨cycleDay, thresholdBytes⟩ := usage
  cases cycleDay <;> cases thresholdBytes <;> rfl

theorem rows_withChange_other {slotId : JsString} (differs : slotId ≠ change.logicalSlotId.val) :
    (state.withChange nowMs change).rows slotId = state.rows slotId := by
  simp only [PersistedUsagePolicy.rows, PersistedUsagePolicy.withChange, List.filter_append,
    rows_toSlots, if_neg (Ne.symm differs), List.append_nil, List.filter_filter]
  refine List.filter_congr fun slot _ => ?_
  by_cases same : slot.logicalSlotId.val = slotId
  · simp [same, differs]
  · simp [same]

theorem rows_withChange_self :
    (state.withChange nowMs change).rows change.logicalSlotId.val =
      toSlots change.logicalSlotId
        (mergePolicy (selectUsagePolicy state change.logicalSlotId.val) change) := by
  simp only [PersistedUsagePolicy.rows, PersistedUsagePolicy.withChange, List.filter_append,
    rows_toSlots, if_true, List.filter_filter]
  rw [List.filter_eq_nil_iff.mpr, List.nil_append]
  simp

end Rows

/-- What a live apply did to the slot's accounting window. -/
structure UsagePolicyApplication where
  cycleStartMs : Double
  cycleReset : Bool

inductive SetUsagePolicyResult where
  | applied (logicalSlotId : SlotId) (usage : UsagePolicy)
      (application : Option UsagePolicyApplication)
  | rejected (logicalSlotId : JsString) (reason : SetUsagePolicyRejection)
  | failed (logicalSlotId : JsString) (reason : JsString)

/-- A call: the request, the time and what the live sampler, if there is one, answers. -/
structure SetUsagePolicyCall where
  request : SetUsagePolicyRequest
  nowMs : Nat
  sampler : Option (JsString → UsagePolicy → Except JsString UsagePolicyApplication)

def setUsagePolicy (task : Nat) (call : SetUsagePolicyCall) :
    RowProgram (Json Double) JsString (List PersistedUsagePolicySlot) JsString
      SetUsagePolicyResult :=
  match validateRequest call.request with
  | .error reason => pure (.rejected (call.request.logicalSlotId.getD []) reason)
  | .ok change => do
      let slotId := change.logicalSlotId
      let saved ← attempt
        (usagePolicyFormat.rewrite task call.nowMs slotId.val (·.withChange call.nowMs change))
      match saved with
      | .error reason => pure (.failed slotId.val reason)
      | .ok state =>
        let usage := mergePolicy (selectUsagePolicy state slotId.val) change
        match call.sampler with
        | none => pure (.applied slotId usage none)
        | some applyUsagePolicy =>
          match applyUsagePolicy slotId.val usage with
          | .ok application => pure (.applied slotId usage (some application))
          | .error reason => pure (.failed slotId.val reason)

/-! ### What a call writes -/

def SetUsagePolicyResult.written :
    SetUsagePolicyResult → Option (JsString × List PersistedUsagePolicySlot)
  | .applied slotId usage _ => some (slotId.val, toSlots slotId usage)
  | _ => none

end ModemStack.Usage
