import ModemStack.Ports.ReconcileEffect

/-!
What an `applied` receipt of the planner is worth.

One policy is planned and carried out, then another is planned. The planner compares
APN, roaming, preference order, slot and activation; what it does not compare it still
reports as applied. `honest_iff` says exactly when no such difference is there.
-/

namespace ModemStack.Ports

open ModemStack.Backend (ReceiptStatus)
open ModemStack.Domain ModemStack.Text

/-- The operation writes the connection profile. -/
def PortTaggedOp.isProfileWrite : PortTaggedOp → Bool
  | .nm (.createGsmProfile _) | .nm (.updateGsmProfile _ _) => true
  | _ => false

def PortTaggedOp.isRadioWrite : PortTaggedOp → Bool
  | .mm (.setRadioModes _) => true
  | _ => false

/-- With the plan for `p` carried out, which leaves `next`, every `applied` receipt of the
plan for `q` is true of all fields of its dimension. -/
structure Honest (current : AppliedCellularState) (p q : DesiredCellularPolicy)
    (capabilities : ModemCapabilities) (next : AppliedCellularState) : Prop where
  connection : (∃ op ∈ (planReconcile current p capabilities).ops, op.isProfileWrite = true) →
    (planReconcile next q capabilities).status .connection = some .applied →
      q.connection = p.connection
  roaming : (∃ op ∈ (planReconcile current p capabilities).ops, op.isProfileWrite = true) →
    (planReconcile next q capabilities).status .roaming = some .applied → q.roaming = p.roaming
  radio : (∃ op ∈ (planReconcile current p capabilities).ops, op.isRadioWrite = true) →
    (planReconcile next q capabilities).status .radio = some .applied → q.radio = p.radio
  simSlot : ∀ slot, q.simSlot = some slot →
    (planReconcile next q capabilities).status .simSlot = some .applied →
      ∃ active, next.activePrimarySlot = some active ∧ active.same slot = true
  disabled : q.enabled = false →
    (planReconcile next q capabilities).status .enabled = some .applied →
      next.nmActivation ≠ .activated ∧ next.nmActivation ≠ .activating

/-- The differences the planner does not see are not there: a written profile is not asked
for again with only other credentials, IP family or network id; radio modes that were set
are not asked for again with only another allowed set; and a connection that is up and to
be disabled can be addressed. -/
def NoHiddenDifference (current : AppliedCellularState) (p q : DesiredCellularPolicy)
    (capabilities : ModemCapabilities) : Prop :=
  (writesProfile current p capabilities = true → q.connection.apn = p.connection.apn →
    q.roaming = p.roaming → q.connection = p.connection) ∧
  (setsRadio current p capabilities = true →
    q.radio.preferenceOrdered = p.radio.preferenceOrdered → q.radio = p.radio) ∧
  (q.enabled = false → isUp current.nmActivation = true → current.deviceIfname.isSome = true ∧
    (current.connectionId.isSome = true ∨ writesProfile current p capabilities = true))

/-! ### Which operations a plan has -/

theorem profileOp_isProfileWrite (current : AppliedCellularState)
    (desired : DesiredCellularPolicy) :
    (profileOp current desired).isProfileWrite = true ∧
      (profileOp current desired).isRadioWrite = false := by
  unfold profileOp
  split <;> exact ⟨rfl, rfl⟩

section Plans

variable {current next : AppliedCellularState} {p q desired : DesiredCellularPolicy}
  {capabilities : ModemCapabilities} {created : JsString}

theorem mem_guarded {α : Type} {guard : Bool} {value : Option α} {a : α} :
    a ∈ (if guard then value else none).toList ↔ guard = true ∧ value = some a := by
  cases guard <;> simp

theorem mem_enabledOp {op : PortTaggedOp} : op ∈ (planEnabled current desired).op.toList ↔
    ∃ place, current.address = some place ∧
      (connects current desired = true ∧ .nm (.activate place.1 place.2) = op ∨
        disconnects current desired = true ∧ .nm (.deactivate place.1 place.2) = op) := by
  have apart : connects current desired = true → disconnects current desired = false := by
    unfold connects disconnects
    cases desired.enabled <;> simp
  rw [op_planEnabled]
  cases known : current.address with
  | none => simp
  | some =>
    cases connecting : connects current desired
    · cases disconnects current desired <;> simp [@eq_comm _ op]
    · simp [apart connecting, @eq_comm _ op]

/-- The operations of a plan, each under the condition it is emitted under. -/
theorem mem_ops {op : PortTaggedOp} : op ∈ (planReconcile current desired capabilities).ops ↔
    (writesProfile current desired capabilities = true ∧ profileOp current desired = op) ∨
    (setsRadio current desired capabilities = true ∧ .mm (.setRadioModes desired.radio) = op) ∨
    (switchesSlot current desired capabilities = true ∧
      ∃ slot, desired.simSlot = some slot ∧ .mm (.setPrimarySimSlot slot) = op) ∨
    ∃ place, current.address = some place ∧
      (connects current desired = true ∧ .nm (.activate place.1 place.2) = op ∨
        disconnects current desired = true ∧ .nm (.deactivate place.1 place.2) = op) := by
  simp only [planReconcile, List.mem_append, mem_enabledOp, op_planNmProfile, op_planRadio,
    op_planSimSlot, mem_guarded, Option.some.injEq, Option.map_eq_some_iff, or_assoc]

theorem writes_iff : (∃ op ∈ (planReconcile current desired capabilities).ops,
    op.isProfileWrite = true) ↔ writesProfile current desired capabilities = true := by
  constructor
  · rintro ⟨op, mem, writes⟩
    rcases mem_ops.mp mem with ⟨isWrite, -⟩ | ⟨-, rfl⟩ | ⟨-, _, -, rfl⟩ | ⟨_, -, ⟨-, rfl⟩ | ⟨-, rfl⟩⟩
    · exact isWrite
    all_goals cases writes
  · intro writes
    exact ⟨_, mem_ops.mpr (.inl ⟨writes, rfl⟩), (profileOp_isProfileWrite current desired).1⟩

theorem sets_iff : (∃ op ∈ (planReconcile current desired capabilities).ops,
    op.isRadioWrite = true) ↔ setsRadio current desired capabilities = true := by
  constructor
  · rintro ⟨op, mem, writes⟩
    rcases mem_ops.mp mem with ⟨-, rfl⟩ | ⟨sets, -⟩ | ⟨-, _, -, rfl⟩ | ⟨_, -, ⟨-, rfl⟩ | ⟨-, rfl⟩⟩
    · rw [(profileOp_isProfileWrite current desired).2] at writes
      cases writes
    · exact sets
    all_goals cases writes
  · intro sets
    exact ⟨_, mem_ops.mpr (.inr (.inl ⟨sets, rfl⟩)), rfl⟩

/-! ### What the next plan reports -/

theorem radioMatches_iff {applied wanted : List RadioAccessTechnology} :
    radioMatches (some applied) wanted = true ↔ applied = wanted := by
  simp only [radioMatches]
  induction applied generalizing wanted with
  | nil => cases wanted <;> simp
  | cons first rest ih =>
    cases wanted with
    | nil => simp
    | cons other wanted =>
      have tail := @ih wanted
      by_cases length : rest.length = wanted.length
      · simp only [length, ne_eq, not_true_eq_false, if_false] at tail
        simp [length, tail]
      · simp only [length, ne_eq, not_false_eq_true, if_true, Bool.false_eq_true,
          false_iff] at tail
        simp [length, tail]

/-- After a profile write the profile is reported applied for the same APN and roaming. -/
theorem profileStatus_after (writes : writesProfile current p capabilities = true) :
    profileStatus (after current p capabilities created) q capabilities = .applied ↔
      q.connection.apn = p.connection.apn ∧ q.roaming = p.roaming := by
  have needs : needsProfileWrite (after current p capabilities created) q =
      (decide (some p.connection.apn ≠ some q.connection.apn) ||
        decide (some p.roaming ≠ some q.roaming)) := by
    simp [needsProfileWrite, after, writes]
  have available : autoUnavailable p capabilities = false := by
    unfold writesProfile at writes
    simpa using (Bool.and_eq_true_iff.mp writes).1
  unfold profileStatus
  constructor
  · intro applied
    split_ifs at applied with unavailable wanted
    rw [needs] at wanted
    simp only [ne_eq, Option.some.injEq, Bool.or_eq_true, decide_eq_true_eq, not_or,
      not_not] at wanted
    exact ⟨wanted.1.symm, wanted.2.symm⟩
  · rintro ⟨apn, roaming⟩
    have same : autoUnavailable q capabilities = autoUnavailable p capabilities := by
      simp only [autoUnavailable, DesiredConnection.isAuto, apn]
    rw [same, available, needs, apn, roaming]
    simp

/-- After the radio modes were set they are reported applied for the same order. -/
theorem radioStatus_after (sets : setsRadio current p capabilities = true) :
    radioStatus (after current p capabilities created) q capabilities = .applied ↔
      q.radio.preferenceOrdered = p.radio.preferenceOrdered := by
  have applied : (after current p capabilities created).appliedRadioPreference =
      some p.radio.preferenceOrdered := if_pos sets
  unfold radioStatus
  rw [applied]
  cases wanted : q.radio.preferenceOrdered with
  | nil =>
    refine ⟨nofun, fun same => ?_⟩
    rw [setsRadio, ← same] at sets
    cases sets
  | cons top rest =>
    rw [setsRadio] at sets
    by_cases same : p.radio.preferenceOrdered = top :: rest
    · rw [same] at sets ⊢
      have supported := of_decide_eq_true (Bool.and_eq_true_iff.mp sets).1
      simp [supported, radioMatches_iff.mpr]
    · have differs : ¬ radioMatches (some p.radio.preferenceOrdered) (top :: rest) = true :=
        fun matched => same (radioMatches_iff.mp matched)
      constructor
      · intro applied
        simp only [if_neg differs] at applied
        split_ifs at applied
      · exact fun equal => absurd equal.symm same

theorem address_isSome {s : AppliedCellularState} :
    s.address.isSome = (s.connectionId.isSome && s.deviceIfname.isSome) := by
  unfold AppliedCellularState.address
  cases s.connectionId <;> cases s.deviceIfname <;> rfl

theorem isUp_iff {nm : NmActivation} : isUp nm = true ↔ nm = .activated ∨ nm = .activating := by
  cases nm <;> simp [isUp]

theorem address_after : (after current p capabilities created).address.isSome =
    ((writesProfile current p capabilities || current.connectionId.isSome) &&
      current.deviceIfname.isSome) := by
  rw [address_isSome]
  simp only [after]
  cases writesProfile current p capabilities <;> rfl

/-- What is up after a plan can be addressed, unless it was up before and could not be. -/
theorem up_after : (isUp (after current p capabilities created).nmActivation = true →
      (after current p capabilities created).address.isSome = true) ↔
    (isUp current.nmActivation = true → current.deviceIfname.isSome = true ∧
      (current.connectionId.isSome = true ∨ writesProfile current p capabilities = true)) := by
  rw [address_after, Bool.and_eq_true_iff, Bool.or_eq_true, and_comm, or_comm]
  cases known : current.address.isSome with
  | true =>
    rw [address_isSome, Bool.and_eq_true_iff] at known
    exact ⟨fun _ _ => ⟨known.2, .inl known.1⟩, fun _ _ => ⟨known.2, .inl known.1⟩⟩
  | false =>
    have nm : (after current p capabilities created).nmActivation = current.nmActivation := by
      simp [after, connects, disconnects, known]
    rw [nm]

/-- The receipts of the plan for `q` are honest exactly where it differs from `p` in no
way the planner does not see. -/
theorem honest_iff (current : AppliedCellularState) (p q : DesiredCellularPolicy)
    (capabilities : ModemCapabilities) (created : JsString) :
    Honest current p q capabilities
        (apply created current (planReconcile current p capabilities)) ↔
      NoHiddenDifference current p q capabilities := by
  have statuses := status_planReconcile (after current p capabilities created) q capabilities
  obtain ⟨connection, roaming, radio, simSlot, enabled, -, -⟩ := statuses
  rw [(status_planNmProfile _ _ _).1] at connection
  rw [(status_planNmProfile _ _ _).2] at roaming
  rw [status_planRadio] at radio
  rw [status_planSimSlot] at simSlot
  rw [status_planEnabled] at enabled
  rw [apply_planReconcile]
  have disabled : q.enabled = false →
      (enabledStatus (after current p capabilities created) q = .applied ↔
        ¬ (isUp (after current p capabilities created).nmActivation = true ∧
          (after current p capabilities created).address.isSome = true)) := by
    intro isDisabled
    rw [enabledStatus, isDisabled, if_neg Bool.false_ne_true, Bool.and_eq_true_iff.symm]
    split_ifs with up <;> simp [up]
  constructor
  · intro honest
    refine ⟨fun writes apn same => ?_, fun sets order => ?_, fun isDisabled => ?_⟩
    · refine honest.connection (writes_iff.mpr writes) ?_
      rw [connection, (profileStatus_after writes).mpr ⟨apn, same⟩]
    · refine honest.radio (sets_iff.mpr sets) ?_
      rw [radio, (radioStatus_after sets).mpr order]
    · rw [← up_after]
      intro up
      by_contra unaddressed
      have applied := (disabled isDisabled).mpr fun both => unaddressed both.2
      have down := honest.disabled isDisabled (by rw [enabled, applied])
      rcases isUp_iff.mp up with activated | activating
      · exact down.1 activated
      · exact down.2 activating
  · rintro ⟨sameConnection, sameRadio, addressed⟩
    refine ⟨?_, ?_, ?_, ?_, ?_⟩
    · intro wrote applied
      have writes := writes_iff.mp wrote
      rw [connection, Option.some.injEq] at applied
      obtain ⟨apn, same⟩ := (profileStatus_after writes).mp applied
      exact sameConnection writes apn same
    · intro wrote applied
      rw [roaming, Option.some.injEq] at applied
      exact ((profileStatus_after (writes_iff.mp wrote)).mp applied).2
    · intro set applied
      have sets := sets_iff.mp set
      rw [radio, Option.some.injEq] at applied
      exact sameRadio sets ((radioStatus_after sets).mp applied)
    · intro slot wanted applied
      rw [simSlot, Option.some.injEq] at applied
      simp only [slotStatus, wanted] at applied
      split_ifs at applied with few outside primary
      exact (Option.any_eq_true _ _).mp primary
    · intro isDisabled applied
      rw [enabled, Option.some.injEq] at applied
      have down := (disabled isDisabled).mp applied
      have up : isUp (after current p capabilities created).nmActivation = true →
          (after current p capabilities created).address.isSome = true :=
        up_after.mpr (addressed isDisabled)
      constructor
      · intro activated
        exact down ⟨isUp_iff.mpr (.inl activated), up (isUp_iff.mpr (.inl activated))⟩
      · intro activating
        exact down ⟨isUp_iff.mpr (.inr activating), up (isUp_iff.mpr (.inr activating))⟩

end Plans

/-! ### A password that is never written -/

def freshState : AppliedCellularState where
  nmActivation := .disconnected
  hasProfile := false
  connectionId := none
  deviceIfname := some (js "wwan0")
  appliedApn := none
  appliedRoaming := none
  appliedRadioPreference := none
  activePrimarySlot := none
  activationFailureReason := none

def dualSlotModem : ModemCapabilities := ⟨[.nr, .lte, .umts, .gsm], .finite 2, true⟩

/-- The default policy, with a manual APN and a password. -/
def policyWithPassword (password : JsString) : DesiredCellularPolicy :=
  { defaultCellularPolicy with
    connection := ⟨js "internet", .ipv4v6, some ⟨some (js "user"), some password⟩, none⟩ }

/-- The profile was written with one password; asking for another is reported applied. -/
theorem honest_fails : ¬ Honest freshState (policyWithPassword (js "old"))
    (policyWithPassword (js "new")) dualSlotModem (apply (js "uuid-1") freshState
      (planReconcile freshState (policyWithPassword (js "old")) dualSlotModem)) := by
  intro honest
  have wrote : ∃ op ∈ (planReconcile freshState (policyWithPassword (js "old"))
      dualSlotModem).ops, op.isProfileWrite = true := by decide
  have applied : (planReconcile (apply (js "uuid-1") freshState (planReconcile freshState
      (policyWithPassword (js "old")) dualSlotModem)) (policyWithPassword (js "new"))
        dualSlotModem).status .connection = some .applied := by decide
  have same := honest.connection wrote applied
  exact absurd same (by decide)

end ModemStack.Ports
