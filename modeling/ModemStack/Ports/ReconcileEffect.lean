import ModemStack.Ports.Reconcile

/-!
Carrying out a plan.

Each dimension's operation is emitted under a condition on the inputs, and writes the
fields of its own dimension. `after` is the state all of them leave.
-/

namespace ModemStack.Ports

open ModemStack.Backend (ReceiptStatus)
open ModemStack.Domain ModemStack.Text

/-- Carry out one operation. A profile that is created gets the id `created`. -/
def execute (created : JsString) (s : AppliedCellularState) : PortTaggedOp → AppliedCellularState
  | .mm (.setRadioModes preference) =>
    { s with appliedRadioPreference := some preference.preferenceOrdered }
  | .mm (.setPrimarySimSlot slotIndex) => { s with activePrimarySlot := some slotIndex }
  | .nm (.createGsmProfile profile) =>
    { s with
      hasProfile := true
      connectionId := some created
      appliedApn := some (if profile.autoConfig then js "auto" else profile.apn)
      appliedRoaming := some (!profile.homeOnly) }
  | .nm (.updateGsmProfile connectionId patch) =>
    let nextApn := if patch.autoConfig = some true then some (js "auto") else patch.apn
    { s with
      hasProfile := true
      connectionId := some connectionId
      appliedApn := nextApn.or s.appliedApn
      appliedRoaming := (patch.homeOnly.map not).or s.appliedRoaming }
  | .nm (.activate _ _) => { s with nmActivation := .activated }
  | .nm (.deactivate _ _) => { s with nmActivation := .disconnected }

def apply (created : JsString) (s : AppliedCellularState) (plan : Plan) : AppliedCellularState :=
  plan.ops.foldl (execute created) s

/-- `'auto'` is desired where it is not available. -/
def autoUnavailable (desired : DesiredCellularPolicy) (capabilities : ModemCapabilities) : Bool :=
  desired.connection.isAuto && !capabilities.supportsAutoApn

section Conditions

variable (current : AppliedCellularState) (desired : DesiredCellularPolicy)
  (capabilities : ModemCapabilities)

/-! ### When an operation is emitted -/

/-- The profile is to be written. -/
def writesProfile : Bool :=
  !autoUnavailable desired capabilities && needsProfileWrite current desired

/-- The radio modes are to be set. -/
def setsRadio : Bool :=
  match desired.radio.preferenceOrdered with
  | [] => false
  | top :: rest =>
    decide (top ∈ capabilities.supportedRats) &&
      !radioMatches current.appliedRadioPreference (top :: rest)

/-- The desired slot is one of those the modem has. -/
def slotInRange (slot : Double) : Bool :=
  !capabilities.simSlotCount.le (.finite 1) &&
    !(slot.lt (.finite 1) || capabilities.simSlotCount.lt slot)

/-- The slot is to be switched. -/
def switchesSlot : Bool :=
  desired.simSlot.any fun slot => slotInRange capabilities slot &&
    !current.activePrimarySlot.any fun active => active.same slot

/-- NetworkManager can be asked to connect. -/
def canConnect : NmActivation → Bool
  | .unavailable | .disconnected | .deactivating => true
  | _ => false

def connects : Bool :=
  desired.enabled && canConnect current.nmActivation && current.address.isSome

def disconnects : Bool :=
  !desired.enabled && isUp current.nmActivation && current.address.isSome

theorem op_planNmProfile : (planNmProfile current desired capabilities).op =
    if writesProfile current desired capabilities then some (profileOp current desired)
    else none := by
  unfold planNmProfile writesProfile autoUnavailable
  cases desired.connection.isAuto && !capabilities.supportsAutoApn <;>
    cases needsProfileWrite current desired <;> rfl

theorem op_planRadio : (planRadio current desired capabilities).op =
    if setsRadio current desired capabilities then some (.mm (.setRadioModes desired.radio))
    else none := by
  unfold planRadio setsRadio
  cases desired.radio.preferenceOrdered with
  | nil => rfl
  | cons top rest =>
    by_cases supported : top ∈ capabilities.supportedRats
    · cases matched : radioMatches current.appliedRadioPreference (top :: rest) <;>
        simp [supported, matched]
    · simp [supported]

theorem op_planSimSlot : (planSimSlot current desired capabilities).op =
    if switchesSlot current desired capabilities then desired.simSlot.map fun slot =>
      .mm (.setPrimarySimSlot slot)
    else none := by
  unfold planSimSlot switchesSlot slotInRange
  cases desired.simSlot with
  | none => rfl
  | some slot =>
    cases few : capabilities.simSlotCount.le (.finite 1)
    · cases low : slot.lt (.finite 1)
      · cases high : capabilities.simSlotCount.lt slot
        · cases primary : current.activePrimarySlot.any fun active => active.same slot <;>
            simp [few, low, high, primary]
        · simp [few, low, high]
      · simp [few, low]
    · simp [few]

theorem op_planEnabled : (planEnabled current desired).op =
    if connects current desired then
      current.address.map fun place => .nm (.activate place.1 place.2)
    else if disconnects current desired then
      current.address.map fun place => .nm (.deactivate place.1 place.2)
    else none := by
  unfold planEnabled planConnect planDisconnect connects disconnects
  cases desired.enabled <;> cases current.nmActivation <;> cases current.address <;> rfl

/-! ### The state a plan leaves -/

/-- The id a profile write leaves the profile with. -/
def writtenId (created : JsString) : JsString :=
  if current.hasProfile then current.connectionId.getD created else created

/-- The state in which the plan for `desired` has been carried out. -/
def after (created : JsString) : AppliedCellularState where
  nmActivation := if connects current desired then .activated
    else if disconnects current desired then .disconnected else current.nmActivation
  hasProfile := writesProfile current desired capabilities || current.hasProfile
  connectionId := if writesProfile current desired capabilities
    then some (writtenId current created) else current.connectionId
  deviceIfname := current.deviceIfname
  appliedApn := if writesProfile current desired capabilities
    then some desired.connection.apn else current.appliedApn
  appliedRoaming := if writesProfile current desired capabilities
    then some desired.roaming else current.appliedRoaming
  appliedRadioPreference := if setsRadio current desired capabilities
    then some desired.radio.preferenceOrdered else current.appliedRadioPreference
  activePrimarySlot := if switchesSlot current desired capabilities
    then desired.simSlot else current.activePrimarySlot
  activationFailureReason := current.activationFailureReason

end Conditions

section Effect

variable {created : JsString} {s current : AppliedCellularState}
  {desired : DesiredCellularPolicy} {capabilities : ModemCapabilities}

theorem profileFromPolicy_apn : (if (profileFromPolicy desired).autoConfig = true then js "auto"
    else (profileFromPolicy desired).apn) = desired.connection.apn := by
  unfold profileFromPolicy
  cases isAuto : desired.connection.isAuto
  · rfl
  · exact (of_decide_eq_true isAuto).symm

theorem profileFromPolicy_homeOnly : (!(profileFromPolicy desired).homeOnly) = desired.roaming :=
  Bool.not_not _

theorem execute_profileOp : execute created current (profileOp current desired) =
    { current with
      hasProfile := true
      connectionId := some (writtenId current created)
      appliedApn := some desired.connection.apn
      appliedRoaming := some desired.roaming } := by
  have apn := @profileFromPolicy_apn desired
  have roaming := @profileFromPolicy_homeOnly desired
  unfold profileOp writtenId
  split
  · next connectionId has known =>
      have patched : (if (profileFromPolicy desired).patch.autoConfig = some true
          then some (js "auto") else (profileFromPolicy desired).patch.apn) =
          some desired.connection.apn := by
        rw [← apn]
        cases isAuto : (profileFromPolicy desired).autoConfig <;>
          simp [GsmProfileInput.patch, isAuto]
      rw [has, known]
      simp only [execute, patched, Option.some_or]
      rw [← roaming]
      rfl
  · next unknown =>
      have created_id : (if current.hasProfile then current.connectionId.getD created
          else created) = created := by
        cases has : current.hasProfile
        · rfl
        · cases known : current.connectionId with
          | none => rfl
          | some connectionId => exact absurd known (unknown connectionId has)
      rw [created_id]
      simp only [execute, apn, roaming]

/-! Each operation, where it is emitted. -/

theorem foldl_profile : (if writesProfile current desired capabilities
      then some (profileOp current desired) else none).toList.foldl (execute created) current =
    { current with
      hasProfile := writesProfile current desired capabilities || current.hasProfile
      connectionId := if writesProfile current desired capabilities
        then some (writtenId current created) else current.connectionId
      appliedApn := if writesProfile current desired capabilities
        then some desired.connection.apn else current.appliedApn
      appliedRoaming := if writesProfile current desired capabilities
        then some desired.roaming else current.appliedRoaming } := by
  cases writesProfile current desired capabilities
  · rfl
  · exact execute_profileOp

theorem foldl_radio : (if setsRadio current desired capabilities
      then some (PortTaggedOp.mm (.setRadioModes desired.radio)) else none).toList.foldl
        (execute created) s =
    { s with
      appliedRadioPreference := if setsRadio current desired capabilities
        then some desired.radio.preferenceOrdered else s.appliedRadioPreference } := by
  cases setsRadio current desired capabilities <;> rfl

theorem foldl_slot : (if switchesSlot current desired capabilities
      then desired.simSlot.map fun slot => PortTaggedOp.mm (.setPrimarySimSlot slot)
      else none).toList.foldl (execute created) s =
    { s with
      activePrimarySlot := if switchesSlot current desired capabilities
        then desired.simSlot else s.activePrimarySlot } := by
  cases switches : switchesSlot current desired capabilities
  · rfl
  · cases wanted : desired.simSlot with
    | none => simp [switchesSlot, wanted] at switches
    | some => rfl

theorem foldl_enabled : (if connects current desired then
      current.address.map fun place => PortTaggedOp.nm (.activate place.1 place.2)
    else if disconnects current desired then
      current.address.map fun place => .nm (.deactivate place.1 place.2)
    else none).toList.foldl (execute created) s =
    { s with
      nmActivation := if connects current desired then .activated
        else if disconnects current desired then .disconnected else s.nmActivation } := by
  cases known : current.address with
  | none => simp [connects, disconnects, known]
  | some =>
    cases connects current desired
    · cases disconnects current desired <;> rfl
    · rfl

/-- What carrying out a plan comes to. -/
theorem apply_planReconcile : apply created current (planReconcile current desired capabilities) =
    after current desired capabilities created := by
  simp only [apply, planReconcile, List.foldl_append, op_planNmProfile, op_planRadio,
    op_planSimSlot, op_planEnabled, foldl_profile, foldl_radio, foldl_slot, foldl_enabled]
  rfl

end Effect

/-! ### Receipts -/

/-- The status of a dimension's receipt. -/
def Plan.status (plan : Plan) (dimension : PolicyDimension) : Option ReceiptStatus :=
  (plan.receipts.find? fun receipt => receipt.dimension = dimension).map PolicyReceipt.status

/-- The dimensions of a policy. -/
def policyDimensions : List PolicyDimension :=
  [.connection, .roaming, .radio, .simSlot, .enabled, .recovery, .usage]

section Receipts

variable (current : AppliedCellularState) (desired : DesiredCellularPolicy)
  (capabilities : ModemCapabilities)

theorem dimensions_planNmProfile :
    (planNmProfile current desired capabilities).connection.dimension = .connection ∧
      (planNmProfile current desired capabilities).roaming.dimension = .roaming := by
  unfold planNmProfile
  cases desired.connection.isAuto && !capabilities.supportsAutoApn <;>
    cases needsProfileWrite current desired <;> exact ⟨rfl, rfl⟩

theorem dimension_planRadio :
    (planRadio current desired capabilities).receipt.dimension = .radio := by
  unfold planRadio
  cases desired.radio.preferenceOrdered with
  | nil => rfl
  | cons top rest =>
    by_cases supported : top ∈ capabilities.supportedRats
    · cases matched : radioMatches current.appliedRadioPreference (top :: rest) <;>
        simp [supported, matched]
    · simp [supported]

theorem dimension_planSimSlot :
    (planSimSlot current desired capabilities).receipt.dimension = .simSlot := by
  unfold planSimSlot
  cases desired.simSlot with
  | none => rfl
  | some =>
    simp only
    split_ifs <;> rfl

theorem dimension_planEnabled : (planEnabled current desired).receipt.dimension = .enabled := by
  unfold planEnabled planConnect planDisconnect
  cases desired.enabled <;> cases current.nmActivation <;> cases current.address <;> rfl

/-- Every plan has one receipt for each dimension of the policy, in this order. -/
theorem receipts_planReconcile :
    (planReconcile current desired capabilities).receipts.map PolicyReceipt.dimension =
      policyDimensions := by
  obtain ⟨connection, roaming⟩ := dimensions_planNmProfile current desired capabilities
  simp only [planReconcile, List.map_cons, List.map_nil, connection, roaming,
    dimension_planRadio, dimension_planSimSlot, dimension_planEnabled]
  rfl

/-- The receipt of each dimension, by its planner. -/
theorem status_planReconcile :
    let plan := planReconcile current desired capabilities
    plan.status .connection = some (planNmProfile current desired capabilities).connection.status ∧
      plan.status .roaming = some (planNmProfile current desired capabilities).roaming.status ∧
      plan.status .radio = some (planRadio current desired capabilities).receipt.status ∧
      plan.status .simSlot = some (planSimSlot current desired capabilities).receipt.status ∧
      plan.status .enabled = some (planEnabled current desired).receipt.status ∧
      plan.status .recovery = some .applied ∧ plan.status .usage = some .applied := by
  obtain ⟨connection, roaming⟩ := dimensions_planNmProfile current desired capabilities
  simp [Plan.status, planReconcile, List.find?, connection, roaming, dimension_planRadio,
    dimension_planSimSlot, dimension_planEnabled, planRecovery, planUsage]

/-! ### When a receipt is `applied`, and when `pending` -/

/-- The status of both receipts of the profile. -/
def profileStatus : ReceiptStatus :=
  if autoUnavailable desired capabilities then .unsupported
  else if needsProfileWrite current desired then .pending else .applied

theorem status_planNmProfile :
    (planNmProfile current desired capabilities).connection.status =
        profileStatus current desired capabilities ∧
      (planNmProfile current desired capabilities).roaming.status =
        profileStatus current desired capabilities := by
  unfold planNmProfile profileStatus autoUnavailable
  cases desired.connection.isAuto && !capabilities.supportsAutoApn <;>
    cases needsProfileWrite current desired <;> exact ⟨rfl, rfl⟩

def radioStatus : ReceiptStatus :=
  match desired.radio.preferenceOrdered with
  | [] => .failed
  | top :: rest =>
    if top ∉ capabilities.supportedRats then .unsupported
    else if radioMatches current.appliedRadioPreference (top :: rest) then .applied else .pending

theorem status_planRadio : (planRadio current desired capabilities).receipt.status =
    radioStatus current desired capabilities := by
  unfold planRadio radioStatus
  cases desired.radio.preferenceOrdered with
  | nil => rfl
  | cons top rest =>
    by_cases supported : top ∈ capabilities.supportedRats
    · cases matched : radioMatches current.appliedRadioPreference (top :: rest) <;>
        simp [supported, matched]
    · simp [supported]

def slotStatus : ReceiptStatus :=
  match desired.simSlot with
  | none => .applied
  | some slot =>
    if capabilities.simSlotCount.le (.finite 1) then .unsupported
    else if slot.lt (.finite 1) || capabilities.simSlotCount.lt slot then .failed
    else if current.activePrimarySlot.any fun active => active.same slot then .applied
    else .pending

theorem status_planSimSlot : (planSimSlot current desired capabilities).receipt.status =
    slotStatus current desired capabilities := by
  unfold planSimSlot slotStatus
  cases desired.simSlot with
  | none => rfl
  | some =>
    simp only
    split_ifs <;> rfl

def enabledStatus : ReceiptStatus :=
  if desired.enabled then
    match current.nmActivation with
    | .activated => .applied
    | .failed => .failed
    | .unmanaged => .unsupported
    | _ => .pending
  else if isUp current.nmActivation && current.address.isSome then .pending else .applied

theorem status_planEnabled :
    (planEnabled current desired).receipt.status = enabledStatus current desired := by
  unfold planEnabled planConnect planDisconnect enabledStatus
  cases desired.enabled <;> cases current.nmActivation <;> cases current.address <;> rfl

end Receipts

end ModemStack.Ports
