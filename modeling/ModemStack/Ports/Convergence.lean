import ModemStack.Ports.ReceiptHonesty

/-!
Planning and carrying out, round after round.

A round settles every dimension but activation, which may have to wait for the id of a
profile written in the same round. `converges_iff` says for which inputs that is all.
-/

namespace ModemStack.Ports

open ModemStack.Backend (ReceiptStatus)
open ModemStack.Domain ModemStack.Text

/-- The state after `k` rounds. The profile created in a round gets its id from
`created`. -/
def round (created : Nat → JsString) (current : AppliedCellularState)
    (desired : DesiredCellularPolicy) (capabilities : ModemCapabilities) :
    Nat → AppliedCellularState
  | 0 => current
  | k + 1 =>
    let s := round created current desired capabilities k
    apply (created k) s (planReconcile s desired capabilities)

/-- The dimensions an operation belongs to. One profile write is for two of them. -/
def PortTaggedOp.dimensions : PortTaggedOp → List PolicyDimension
  | .mm (.setRadioModes _) => [.radio]
  | .mm (.setPrimarySimSlot _) => [.simSlot]
  | .nm (.createGsmProfile _) | .nm (.updateGsmProfile _ _) => [.connection, .roaming]
  | .nm (.activate _ _) | .nm (.deactivate _ _) => [.enabled]

/-- The rounds reach a plan without operations. -/
structure Converges (created : Nat → JsString) (current : AppliedCellularState)
    (desired : DesiredCellularPolicy) (capabilities : ModemCapabilities) : Prop where
  /-- Two rounds are enough, and nothing is left to do from then on. -/
  quiet : ∀ k, 2 ≤ k → (planReconcile (round created current desired capabilities k) desired
    capabilities).ops = []
  applied : ∀ dimension k later, k ≤ later →
    (planReconcile (round created current desired capabilities k) desired capabilities).status
      dimension = some .applied →
    (planReconcile (round created current desired capabilities later) desired
      capabilities).status dimension = some .applied
  pending : ∀ k, ∀ op ∈ (planReconcile (round created current desired capabilities k) desired
      capabilities).ops, ∀ dimension ∈ op.dimensions,
    (planReconcile (round created current desired capabilities k) desired capabilities).status
      dimension = some .pending
  creates : ∀ k profile, .nm (.createGsmProfile profile) ∈
      (planReconcile (round created current desired capabilities k) desired capabilities).ops →
    (round created current desired capabilities k).hasProfile = false
  receipts : ∀ k, (planReconcile (round created current desired capabilities k) desired
    capabilities).receipts.map PolicyReceipt.dimension = policyDimensions

/-- A profile to be written is known by its id, or is new and the connection not up and to
be disabled; and the desired slot is not `NaN` on a modem with several. -/
def Addressed (current : AppliedCellularState) (desired : DesiredCellularPolicy)
    (capabilities : ModemCapabilities) : Prop :=
  (writesProfile current desired capabilities = true → current.connectionId = none →
    current.hasProfile = false ∧ (desired.enabled = true ∨ isUp current.nmActivation = false)) ∧
  (desired.simSlot = some .nan → capabilities.simSlotCount.le (.finite 1) = true)

section Rounds

variable {s current : AppliedCellularState} {desired : DesiredCellularPolicy}
  {capabilities : ModemCapabilities} {id : JsString} {created : Nat → JsString}

/-! ### One round -/

theorem writesProfile_after :
    writesProfile (after s desired capabilities id) desired capabilities = false := by
  cases writes : writesProfile s desired capabilities with
  | true =>
    have hasProfile : (after s desired capabilities id).hasProfile = true := by
      simp only [after, writes, Bool.true_or]
    have apn : (after s desired capabilities id).appliedApn = some desired.connection.apn :=
      if_pos writes
    have roaming : (after s desired capabilities id).appliedRoaming = some desired.roaming :=
      if_pos writes
    simp [writesProfile, needsProfileWrite, hasProfile, apn, roaming]
  | false =>
    have same : needsProfileWrite (after s desired capabilities id) desired =
        needsProfileWrite s desired := by
      simp only [needsProfileWrite, after, writes, Bool.false_or, Bool.false_eq_true, if_false]
    rw [writesProfile, same]
    exact writes

theorem setsRadio_after :
    setsRadio (after s desired capabilities id) desired capabilities = false := by
  cases sets : setsRadio s desired capabilities with
  | true =>
    have written : (after s desired capabilities id).appliedRadioPreference =
        some desired.radio.preferenceOrdered := by
      simp [after, sets]
    unfold setsRadio
    rw [written]
    cases desired.radio.preferenceOrdered with
    | nil => rfl
    | cons => simp [radioMatches_iff.mpr]
  | false =>
    have same : (after s desired capabilities id).appliedRadioPreference =
        s.appliedRadioPreference := by
      simp [after, sets]
    rw [setsRadio, same]
    exact sets

theorem slotInRange_nan :
    slotInRange capabilities .nan = !capabilities.simSlotCount.le (.finite 1) := by
  have below : Double.nan.lt (.finite 1) = false := rfl
  have above : capabilities.simSlotCount.lt .nan = false := by
    unfold Double.lt
    cases capabilities.simSlotCount.place <;> rfl
  rw [slotInRange, below, above]
  exact Bool.and_true _

/-- A slot is switched to once, unless it is no number to compare with. -/
theorem switchesSlot_after :
    switchesSlot (after s desired capabilities id) desired capabilities = true ↔
      desired.simSlot = some .nan ∧ capabilities.simSlotCount.le (.finite 1) = false := by
  cases wanted : desired.simSlot with
  | none => simp [switchesSlot, wanted]
  | some slot =>
    have primary : (after s desired capabilities id).activePrimarySlot =
        if switchesSlot s desired capabilities then some slot else s.activePrimarySlot :=
      wanted ▸ rfl
    have again : switchesSlot (after s desired capabilities id) desired capabilities =
        (slotInRange capabilities slot &&
          !(after s desired capabilities id).activePrimarySlot.any fun active =>
            active.same slot) := by
      rw [switchesSlot, wanted, Option.any_some]
    have before : switchesSlot s desired capabilities = (slotInRange capabilities slot &&
        !s.activePrimarySlot.any fun active => active.same slot) := by
      rw [switchesSlot, wanted, Option.any_some]
    rw [again, primary]
    cases switches : switchesSlot s desired capabilities with
    | true =>
      rw [if_pos rfl, Option.any_some]
      rw [before, Bool.and_eq_true] at switches
      by_cases isNan : slot = .nan
      · subst isNan
        have many : capabilities.simSlotCount.le (.finite 1) = false := by
          simpa [slotInRange_nan] using switches.1
        have differs : Double.nan.same .nan = false := rfl
        simp [slotInRange_nan, many, differs]
      · have same := Double.same_self.mpr isNan
        simp [same, isNan]
    | false =>
      rw [if_neg Bool.false_ne_true, ← before, switches]
      refine ⟨by simp, ?_⟩
      rintro ⟨isNan, many⟩
      cases isNan
      have never : (s.activePrimarySlot.any fun active => active.same .nan) = false := by
        cases s.activePrimarySlot with
        | none => rfl
        | some active => cases active <;> rfl
      rw [before, slotInRange_nan, many, never] at switches
      cases switches

/-- Where the address is not new, a connection is brought up once. -/
theorem connects_after
    (known : (after s desired capabilities id).address.isSome = true → s.address.isSome = true) :
    connects (after s desired capabilities id) desired = false := by
  cases addressed : (after s desired capabilities id).address.isSome with
  | false => rw [connects, addressed, Bool.and_false]
  | true =>
    rw [connects, addressed, Bool.and_true]
    cases enabled : desired.enabled with
    | false => rfl
    | true =>
      have stays : disconnects s desired = false := by simp [disconnects, enabled]
      have before : connects s desired = canConnect s.nmActivation := by
        simp [connects, enabled, known addressed]
      simp only [after, stays, before, Bool.true_and, Bool.false_eq_true, if_false]
      cases can : canConnect s.nmActivation
      · exact can
      · rfl

theorem disconnects_after
    (known : (after s desired capabilities id).address.isSome = true → s.address.isSome = true) :
    disconnects (after s desired capabilities id) desired = false := by
  cases addressed : (after s desired capabilities id).address.isSome with
  | false => rw [disconnects, addressed, Bool.and_false]
  | true =>
    rw [disconnects, addressed, Bool.and_true]
    cases enabled : desired.enabled with
    | true => rfl
    | false =>
      have stays : connects s desired = false := by simp [connects, enabled]
      have before : disconnects s desired = isUp s.nmActivation := by
        simp [disconnects, enabled, known addressed]
      simp only [after, stays, before, Bool.not_false, Bool.true_and, Bool.false_eq_true,
        if_false]
      cases up : isUp s.nmActivation
      · exact up
      · rfl

/-! ### An `applied` receipt stays -/

theorem addressed_after (addressed : Addressed s desired capabilities) :
    Addressed (after s desired capabilities id) desired capabilities := by
  constructor
  · intro writes
    rw [writesProfile_after] at writes
    cases writes
  · exact addressed.2

theorem profileStatus_stays (applied : profileStatus s desired capabilities = .applied) :
    profileStatus (after s desired capabilities id) desired capabilities = .applied := by
  have unchanged : writesProfile (after s desired capabilities id) desired capabilities = false :=
    writesProfile_after
  unfold profileStatus at applied ⊢
  split_ifs at applied with unavailable writes
  have quiet : needsProfileWrite (after s desired capabilities id) desired = false := by
    simpa [writesProfile, unavailable] using unchanged
  simp [unavailable, quiet]

theorem radioStatus_stays (applied : radioStatus s desired capabilities = .applied) :
    radioStatus (after s desired capabilities id) desired capabilities = .applied := by
  have quiet : setsRadio s desired capabilities = false := by
    unfold radioStatus at applied
    unfold setsRadio
    cases wanted : desired.radio.preferenceOrdered with
    | nil => rfl
    | cons =>
      simp only [wanted] at applied
      split_ifs at applied with unsupported matched
      simp [matched]
  have same : (after s desired capabilities id).appliedRadioPreference =
      s.appliedRadioPreference := by
    simp [after, quiet]
  rw [radioStatus, same]
  exact applied

theorem slotStatus_stays (applied : slotStatus s desired capabilities = .applied) :
    slotStatus (after s desired capabilities id) desired capabilities = .applied := by
  have quiet : switchesSlot s desired capabilities = false := by
    unfold slotStatus at applied
    unfold switchesSlot
    cases wanted : desired.simSlot with
    | none => rfl
    | some =>
      simp only [wanted] at applied
      split_ifs at applied with few outside primary
      simp [primary]
  have same : (after s desired capabilities id).activePrimarySlot = s.activePrimarySlot := by
    simp [after, quiet]
  rw [slotStatus, same]
  exact applied

theorem enabledStatus_disabled (disabled : desired.enabled = false) :
    enabledStatus s desired = .applied ↔
      (isUp s.nmActivation = true → s.address.isSome = false) := by
  rw [enabledStatus, disabled, if_neg Bool.false_ne_true]
  cases isUp s.nmActivation <;> cases s.address.isSome <;> simp

/-- The one receipt that could be taken back is that of a connection to be disabled which
nothing but the profile written in the same round makes addressable. -/
theorem enabledStatus_stays (addressed : Addressed s desired capabilities)
    (applied : enabledStatus s desired = .applied) :
    enabledStatus (after s desired capabilities id) desired = .applied := by
  cases enabled : desired.enabled with
  | true =>
    have activated : s.nmActivation = .activated := by
      unfold enabledStatus at applied
      rw [enabled, if_pos rfl] at applied
      cases nm : s.nmActivation <;> simp [nm] at applied ⊢
    have stays : (after s desired capabilities id).nmActivation = .activated := by
      simp [after, connects, disconnects, enabled, activated, canConnect]
    rw [enabledStatus, enabled, if_pos rfl, stays]
  | false =>
    rw [enabledStatus_disabled enabled] at applied ⊢
    have nm : (after s desired capabilities id).nmActivation = s.nmActivation := by
      cases up : isUp s.nmActivation
      · simp [after, connects, disconnects, enabled, up]
      · simp [after, connects, disconnects, enabled, applied up]
    rw [nm, address_after]
    intro up
    have unknown := applied up
    rw [address_isSome] at unknown
    cases writes : writesProfile s desired capabilities with
    | false => exact unknown
    | true =>
      cases known : s.connectionId with
      | none =>
        rcases (addressed.1 writes known).2 with isEnabled | down
        · rw [enabled] at isEnabled
          cases isEnabled
        · rw [down] at up
          cases up
      | some =>
        rw [known] at unknown
        exact unknown

theorem status_stays (addressed : Addressed s desired capabilities) {dimension : PolicyDimension}
    (applied : (planReconcile s desired capabilities).status dimension = some .applied) :
    (planReconcile (after s desired capabilities id) desired capabilities).status dimension =
      some .applied := by
  obtain ⟨connection, roaming, radio, simSlot, enabled, recovery, usage⟩ :=
    status_planReconcile s desired capabilities
  obtain ⟨connection', roaming', radio', simSlot', enabled', recovery', usage'⟩ :=
    status_planReconcile (after s desired capabilities id) desired capabilities
  rw [(status_planNmProfile _ _ _).1] at connection connection'
  rw [(status_planNmProfile _ _ _).2] at roaming roaming'
  rw [status_planRadio] at radio radio'
  rw [status_planSimSlot] at simSlot simSlot'
  rw [status_planEnabled] at enabled enabled'
  cases dimension with
  | connection =>
    rw [connection, Option.some.injEq] at applied
    rw [connection', profileStatus_stays applied]
  | roaming =>
    rw [roaming, Option.some.injEq] at applied
    rw [roaming', profileStatus_stays applied]
  | radio =>
    rw [radio, Option.some.injEq] at applied
    rw [radio', radioStatus_stays applied]
  | simSlot =>
    rw [simSlot, Option.some.injEq] at applied
    rw [simSlot', slotStatus_stays applied]
  | enabled =>
    rw [enabled, Option.some.injEq] at applied
    rw [enabled', enabledStatus_stays addressed applied]
  | recovery => exact recovery'
  | usage => exact usage'
  | band =>
    have listed := receipts_planReconcile s desired capabilities
    obtain ⟨receipt, found, -⟩ := Option.map_eq_some_iff.mp applied
    have isBand : receipt.dimension = .band := by
      simpa using List.find?_some found
    have mem : receipt.dimension ∈ policyDimensions :=
      listed ▸ List.mem_map_of_mem (List.mem_of_find?_eq_some found)
    rw [isBand] at mem
    simp [policyDimensions] at mem

/-! ### Pending receipts -/

/-- An operation is emitted for what is reported pending. -/
theorem status_pending {op : PortTaggedOp} (mem : op ∈ (planReconcile s desired capabilities).ops)
    {dimension : PolicyDimension} (belongs : dimension ∈ op.dimensions) :
    (planReconcile s desired capabilities).status dimension = some .pending := by
  obtain ⟨connection, roaming, radio, simSlot, enabled, -, -⟩ :=
    status_planReconcile s desired capabilities
  rw [(status_planNmProfile _ _ _).1] at connection
  rw [(status_planNmProfile _ _ _).2] at roaming
  rw [status_planRadio] at radio
  rw [status_planSimSlot] at simSlot
  rw [status_planEnabled] at enabled
  rcases mem_ops.mp mem with ⟨writes, rfl⟩ | ⟨sets, rfl⟩ | ⟨switches, slot, wanted, rfl⟩ |
    ⟨place, known, ⟨connecting, rfl⟩ | ⟨disconnecting, rfl⟩⟩
  · have pending : profileStatus s desired capabilities = .pending := by
      simp only [writesProfile, Bool.and_eq_true, Bool.not_eq_true'] at writes
      simp [profileStatus, writes.1, writes.2]
    have both : dimension = .connection ∨ dimension = .roaming := by
      unfold profileOp at belongs
      split at belongs <;> simpa [PortTaggedOp.dimensions] using belongs
    rcases both with rfl | rfl
    · rw [connection, pending]
    · rw [roaming, pending]
  · have pending : radioStatus s desired capabilities = .pending := by
      unfold setsRadio at sets
      unfold radioStatus
      cases wanted : desired.radio.preferenceOrdered with
      | nil => simp [wanted] at sets
      | cons =>
        simp only [wanted, Bool.and_eq_true, decide_eq_true_eq, Bool.not_eq_true'] at sets
        simp [sets.1, sets.2]
    cases List.mem_singleton.mp belongs
    rw [radio, pending]
  · have pending : slotStatus s desired capabilities = .pending := by
      simp only [switchesSlot, wanted, Option.any_some, slotInRange, Bool.and_eq_true,
        Bool.not_eq_true'] at switches
      simp [slotStatus, wanted, switches]
    cases List.mem_singleton.mp belongs
    rw [simSlot, pending]
  · have pending : enabledStatus s desired = .pending := by
      simp only [connects, Bool.and_eq_true] at connecting
      have can := connecting.1.2
      rw [enabledStatus, connecting.1.1, if_pos rfl]
      cases nm : s.nmActivation <;> simp [nm, canConnect] at can ⊢
    cases List.mem_singleton.mp belongs
    rw [enabled, pending]
  · have pending : enabledStatus s desired = .pending := by
      simp only [disconnects, Bool.and_eq_true, Bool.not_eq_true'] at disconnecting
      rw [enabledStatus, disconnecting.1.1, if_neg Bool.false_ne_true, disconnecting.1.2,
        disconnecting.2]
      rfl
    cases List.mem_singleton.mp belongs
    rw [enabled, pending]

/-- A profile is created where there is none, or where its id is not known. -/
theorem creates_iff {profile : GsmProfileInput} :
    .nm (.createGsmProfile profile) ∈ (planReconcile s desired capabilities).ops ↔
      writesProfile s desired capabilities = true ∧ profileFromPolicy desired = profile ∧
        (s.hasProfile = true → s.connectionId = none) := by
  have isCreate : profileOp s desired = .nm (.createGsmProfile profile) ↔
      profileFromPolicy desired = profile ∧ (s.hasProfile = true → s.connectionId = none) := by
    unfold profileOp
    cases s.hasProfile <;> cases s.connectionId <;> simp
  rw [mem_ops, isCreate]
  simp

/-! ### Quiet states -/

/-- Nothing is left to do. -/
structure Quiet (s : AppliedCellularState) (desired : DesiredCellularPolicy)
    (capabilities : ModemCapabilities) : Prop where
  profile : writesProfile s desired capabilities = false
  radio : setsRadio s desired capabilities = false
  slot : switchesSlot s desired capabilities = false
  connected : connects s desired = false
  disconnected : disconnects s desired = false

theorem Quiet.ops (quiet : Quiet s desired capabilities) :
    (planReconcile s desired capabilities).ops = [] := by
  simp [planReconcile, op_planNmProfile, op_planRadio, op_planSimSlot, op_planEnabled,
    quiet.profile, quiet.radio, quiet.slot, quiet.connected, quiet.disconnected]

/-! ### All rounds -/

theorem round_succ {k : Nat} : round created current desired capabilities (k + 1) =
    after (round created current desired capabilities k) desired capabilities (created k) :=
  apply_planReconcile

theorem round_addressed (addressed : Addressed current desired capabilities) (k : Nat) :
    Addressed (round created current desired capabilities k) desired capabilities := by
  induction k with
  | zero => exact addressed
  | succ k ih =>
    rw [round_succ]
    exact addressed_after ih

/-- The first round writes the profile, the second brings the connection up or down. -/
theorem round_quiet (addressed : Addressed current desired capabilities) (k : Nat) :
    Quiet (round created current desired capabilities (k + 2)) desired capabilities := by
  have profile : writesProfile (round created current desired capabilities (k + 1)) desired
      capabilities = false := by
    rw [round_succ]
    exact writesProfile_after
  rw [round_succ (k := k + 1)]
  have known : (after (round created current desired capabilities (k + 1)) desired capabilities
      (created (k + 1))).address.isSome = true →
      (round created current desired capabilities (k + 1)).address.isSome = true := by
    rw [address_after, profile, Bool.false_or, address_isSome]
    exact fun isKnown => isKnown
  constructor
  · exact writesProfile_after
  · exact setsRadio_after
  · rw [← Bool.not_eq_true, switchesSlot_after]
    rintro ⟨isNan, many⟩
    rw [addressed.2 isNan] at many
    cases many
  · exact connects_after known
  · exact disconnects_after known

/-- Rounds of plan and apply come to rest as they should exactly from an addressed state. -/
theorem converges_iff (created : Nat → JsString) (current : AppliedCellularState)
    (desired : DesiredCellularPolicy) (capabilities : ModemCapabilities)
    (known : current.deviceIfname.isSome = true) :
    Converges created current desired capabilities ↔ Addressed current desired capabilities := by
  constructor
  · intro converges
    constructor
    · intro writes unknown
      have isNew : current.hasProfile = false :=
        converges.creates 0 _ (creates_iff.mpr ⟨writes, rfl, fun _ => unknown⟩)
      refine ⟨isNew, ?_⟩
      by_contra neither
      obtain ⟨notEnabled, up⟩ := not_or.mp neither
      have disabled := eq_false_of_ne_true notEnabled
      have up := eq_true_of_ne_false up
      have nowhere : current.address.isSome = false := by
        rw [address_isSome, unknown]
        rfl
      have status (s : AppliedCellularState) :=
        (status_planReconcile s desired capabilities).2.2.2.2.1
      have first := converges.applied .enabled 0 1 (Nat.zero_le 1)
        (by rw [status, status_planEnabled, round, (enabledStatus_disabled disabled).mpr
          fun _ => nowhere])
      rw [status, status_planEnabled, round_succ, Option.some.injEq,
        enabledStatus_disabled disabled, address_after] at first
      have nm : (after current desired capabilities (created 0)).nmActivation =
          current.nmActivation := by
        simp [after, connects, disconnects, nowhere]
      have again := first (nm.symm ▸ up)
      simp [round, writes, known] at again
    · intro isNan
      by_contra many
      have switches : switchesSlot (round created current desired capabilities 2) desired
          capabilities = true := by
        rw [round_succ]
        exact switchesSlot_after.mpr ⟨isNan, eq_false_of_ne_true many⟩
      have op : .mm (.setPrimarySimSlot .nan) ∈
          (planReconcile (round created current desired capabilities 2) desired
            capabilities).ops :=
        mem_ops.mpr (.inr (.inr (.inl ⟨switches, _, isNan, rfl⟩)))
      rw [converges.quiet 2 (Nat.le_refl 2)] at op
      cases op
  · intro addressed
    constructor
    · intro k late
      obtain ⟨k, rfl⟩ := Nat.exists_eq_add_of_le' late
      exact (round_quiet addressed k).ops
    · intro dimension k later order applied
      induction later, order using Nat.le_induction with
      | base => exact applied
      | succ later _ ih =>
        rw [round_succ]
        exact status_stays (round_addressed addressed later) ih
    · intro k op mem dimension belongs
      exact status_pending mem belongs
    · intro k profile mem
      obtain ⟨writes, -, unknown⟩ := creates_iff.mp mem
      cases has : (round created current desired capabilities k).hasProfile with
      | false => rfl
      | true =>
        have isNew := ((round_addressed addressed k).1 writes (unknown has)).1
        rw [isNew] at has
        cases has
    · intro k
      exact receipts_planReconcile _ _ _

end Rounds

/-- A device without a profile comes to rest at the default policy. -/
theorem converges_iff_fresh :
    Converges (fun _ => js "uuid-1") freshState defaultCellularPolicy dualSlotModem :=
  (converges_iff _ freshState defaultCellularPolicy dualSlotModem rfl).mpr
    ⟨fun _ _ => ⟨rfl, .inl rfl⟩, nofun⟩

/-! ### A profile whose id is not known -/

/-- There is a profile, for another APN than the default policy's. -/
def unnamedProfile : AppliedCellularState :=
  { freshState with
    hasProfile := true, appliedApn := some (js "internet"), appliedRoaming := some false }

/-- The receipt says `updating`, the operation is `createGsmProfile`. -/
theorem converges_fails : unnamedProfile.deviceIfname.isSome = true ∧
    ¬ Converges (fun _ => js "uuid-1") unnamedProfile defaultCellularPolicy dualSlotModem := by
  refine ⟨rfl, fun converges => ?_⟩
  have isNew := converges.creates 0 (profileFromPolicy defaultCellularPolicy)
    (by decide)
  cases isNew

end ModemStack.Ports
