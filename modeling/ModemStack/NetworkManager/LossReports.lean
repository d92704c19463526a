import ModemStack.NetworkManager.GenerationFence

/-!
What the fold reports as lost.

A loss is reported when the applied slot is cleared, which is when the readout contradicts it. What
one call recorded is reported as lost once at most, whatever comes in between (`losses_exact`).
-/

namespace ModemStack.NetworkManager

open ModemStack.Async ModemStack.Data ModemStack.Domain ModemStack.Ports ModemStack.Text

/-- What the fold says of one connection that has a device. -/
theorem foldSlots_outcome (input : NmObservationInput) (id : JsString) {slots : ConnectionSlots}
    (tracked : targetIfname slots ≠ none) :
    ∃ outcome, (foldSlots input id slots).2 = some ⟨id, outcome⟩ ∧
      ((∃ loss, outcome = .lost loss ∧ loss.connectionId = id ∧
          slots.applied = some loss.previous ∧ (foldSlots input id slots).1.applied = none) ∨
        (∀ loss, outcome ≠ .lost loss) ∧
          (foldSlots input id slots).1.applied = slots.applied) := by
  obtain ⟨ifname, isTarget⟩ := Option.ne_none_iff_exists'.mp tracked
  have lost_of_classified {loss : NmAppliedLoss} (device : Option NmObservedDevice)
      (isLost : classifyApplied id slots ifname device input.context.observedAt = .lost loss) :
      loss.connectionId = id ∧ slots.applied = some loss.previous := by
    unfold classifyApplied at isLost
    cases isApplied : slots.applied with
    | none => simp [isApplied] at isLost
    | some =>
      rw [isApplied] at isLost
      simp only at isLost
      repeat' split at isLost
      all_goals
        cases isLost
        try exact ⟨rfl, rfl⟩
  unfold foldSlots
  rw [isTarget]
  refine ⟨_, rfl, ?_⟩
  cases isOutcome : classifyApplied id slots ifname (input.deviceMap.get ifname)
      input.context.observedAt with
  | lost loss =>
    obtain ⟨isId, previous⟩ := lost_of_classified _ isOutcome
    exact .inl ⟨loss, rfl, isId, previous, by simp only [isOutcome]⟩
  | unapplied => exact .inr ⟨by simp, by simp only [isOutcome]⟩
  | retained => exact .inr ⟨by simp, by simp only [isOutcome]⟩
  | pending => exact .inr ⟨by simp, by simp only [isOutcome]⟩

namespace NetworkManagerAdapter

variable {a : NetworkManagerAdapter}

/-! ### The property -/

/-- An accepted readout has one outcome for each tracked connection, and reports a loss exactly for
the connections whose applied slot it clears, which are those it contradicts. -/
structure Exact (a : NetworkManagerAdapter) (input : NmObservationInput)
    (outcomes : List NmConnectionOutcome) (losses : List NmAppliedLoss) : Prop where
  tracked : outcomes.map NmConnectionOutcome.connectionId = a.slots.keys
  distinct : a.slots.keys.Nodup
  once : (losses.map NmAppliedLoss.connectionId).Nodup
  cleared : ∀ id, (∃ loss ∈ losses, loss.connectionId = id) ↔
    a.appliedFor id ≠ none ∧ (a.observe input).1.appliedFor id = none
  contradicted : ∀ id, (∃ loss ∈ losses, loss.connectionId = id) ↔
    ∃ applied, a.appliedFor id = some applied ∧ ¬ input.Agrees id applied
  previous : ∀ loss ∈ losses, a.appliedFor loss.connectionId = some loss.previous
  again : ((a.observe input).1.observe input).2.losses = []

/-- The losses an event reports: each connection, and the call that had recorded what is lost. -/
def reports (a : NetworkManagerAdapter) : Event → List (JsString × Nat)
  | .observe input => (a.observe input).2.losses.map fun loss =>
    (loss.connectionId, a.recordedBy loss.connectionId)
  | _ => []

/-! ### Readouts that are accepted -/

def outcomesOf (a : NetworkManagerAdapter) (input : NmObservationInput) :
    List NmConnectionOutcome :=
  a.slots.items.filterMap fun item => (foldSlots input item.1 item.2).2

variable {input : NmObservationInput}

theorem observe_folded (folded : ¬ Stale a input) : (a.observe input).1.slots =
        ⟨a.slots.items.map fun item => (item.1, (foldSlots input item.1 item.2).1)⟩ ∧
      (a.observe input).1.observedGeneration = some input.context.generation ∧
      (a.observe input).2 = .accepted input.context.generation input.context.observedAt
        (a.outcomesOf input) ((a.outcomesOf input).filterMap NmConnectionOutcome.loss?) := by
  simp only [observe, foldObservation, outcomesOf]
  split
  · simp [Function.comp_def, List.filterMap_map]
  · next observed isObserved =>
    rw [if_neg fun lt => folded ⟨observed, isObserved, lt⟩]
    simp [Function.comp_def, List.filterMap_map]

theorem not_stale_of_accepted {generation : DeviceGeneration} {observedAt : EpochMillis}
    {outcomes : List NmConnectionOutcome} {losses : List NmAppliedLoss}
    (accepted : (a.observe input).2 = .accepted generation observedAt outcomes losses) :
    ¬ Stale a input := by
  intro stale
  obtain ⟨current, unchanged⟩ := observe_stale stale
  rw [unchanged] at accepted
  cases accepted

/-! ### Tracked connections -/

/-- Each tracked connection has a desired profile, and so does each that an apply is under way
for. -/
structure Tracked (a : NetworkManagerAdapter) : Prop where
  distinct : a.slots.keys.Nodup
  desired : ∀ id ∈ a.slots.keys, a.desiredFor id ≠ none
  targets : ∀ call stands id options, a.calls call = some stands →
    stands.target = some (id, options) → a.desiredFor id ≠ none

theorem tracked_new : Tracked .new := ⟨List.nodup_nil, nofun, nofun⟩

variable {call : Nat}

theorem desiredFor_record {id other : JsString} {configuration : NmBearerState}
    {options : NmApplyOptions} {now : EpochMillis} {receipt : PolicyReceipt} :
    (a.record call id configuration options now receipt).desiredFor other = a.desiredFor other := by
  unfold desiredFor record
  by_cases same : other = id
  · subst same
    cases isSlots : a.slots.get other <;> simp [slotsFor, isSlots, ConnectionSlots.empty]
  · simp [same]

theorem desiredFor_setDesired {id other : JsString} {desired : DesiredProfile NmBearerState} :
    (a.setDesired id desired).desiredFor other =
      if other = id then some desired else a.desiredFor other := by
  unfold desiredFor setDesired
  by_cases same : other = id <;> simp [same]

namespace Tracked

theorem put (tracked : Tracked a) {call : Nat} {stands : Call}
    (desired : ∀ id options, stands.target = some (id, options) → a.desiredFor id ≠ none) :
    Tracked (a.put call stands) where
  distinct := tracked.distinct
  desired := tracked.desired
  targets other stands' id options isCall isTarget := by
    change Function.update a.calls call (some stands) other = some stands' at isCall
    by_cases same : other = call
    · subst same
      rw [Function.update_self] at isCall
      cases isCall
      exact desired id options isTarget
    · rw [Function.update_of_ne same] at isCall
      exact tracked.targets other stands' id options isCall isTarget

theorem add (tracked : Tracked a) {stands : Call}
    (desired : ∀ id options, stands.target = some (id, options) → a.desiredFor id ≠ none) :
    Tracked (a.add stands) := by
  have put : Tracked (a.put a.called stands) := tracked.put desired
  exact ⟨put.distinct, put.desired, put.targets⟩

theorem setDesired (tracked : Tracked a) (id : JsString) (desired : DesiredProfile NmBearerState) :
    Tracked (a.setDesired id desired) where
  distinct := OrderedMap.nodup_set tracked.distinct _ _
  desired other mem := by
    rw [desiredFor_setDesired]
    rcases OrderedMap.mem_keys_set.mp mem with earlier | isNew
    · split
      · exact Option.some_ne_none _
      · exact tracked.desired other earlier
    · rw [if_pos isNew]
      exact Option.some_ne_none _
  targets call stands other options isCall isTarget := by
    rw [desiredFor_setDesired]
    split
    · exact Option.some_ne_none _
    · exact tracked.targets call stands other options isCall isTarget

theorem record (tracked : Tracked a) {call : Nat} {id : JsString}
    (isDesired : a.desiredFor id ≠ none) {configuration : NmBearerState}
    {options : NmApplyOptions} {now : EpochMillis} {receipt : PolicyReceipt} :
    Tracked (a.record call id configuration options now receipt) := by
  have put : Tracked (a.put call (.applied (.applied
      ⟨configuration, now, options.generation, options.operationId⟩ receipt))) := tracked.put nofun
  refine ⟨OrderedMap.nodup_set tracked.distinct _ _, fun other mem => ?_,
    fun other stands id' options' isCall isTarget => ?_⟩
  · rw [desiredFor_record]
    rcases OrderedMap.mem_keys_set.mp mem with earlier | rfl
    · exact tracked.desired other earlier
    · exact isDesired
  · rw [desiredFor_record]
    exact put.targets other stands id' options' isCall isTarget

theorem observe (tracked : Tracked a) (input : NmObservationInput) :
    Tracked (a.observe input).1 := by
  by_cases stale : Stale a input
  · obtain ⟨current, unchanged⟩ := observe_stale stale
    rw [unchanged]
    exact tracked
  · have sameKeys : (a.observe input).1.slots.keys = a.slots.keys := by
      rw [(observe_folded stale).1]
      simp [OrderedMap.keys, Function.comp_def]
    refine ⟨sameKeys ▸ tracked.distinct, fun id mem => ?_,
      fun call stands id options isCall isTarget => ?_⟩
    · rw [desiredFor_observe]
      exact tracked.desired id (sameKeys ▸ mem)
    · rw [desiredFor_observe]
      exact tracked.targets call stands id options isCall isTarget

theorem step (tracked : Tracked a) (event : Event) : Tracked (a.step event) := by
  cases event with
  | saveDesiredProfile => exact tracked.add (by rintro _ _ ⟨⟩)
  | releaseDesired id requestedBy now =>
    simp only [NetworkManagerAdapter.step, releaseDesired]
    split
    · exact tracked
    · exact tracked.setDesired id _
  | applyDesired id options =>
    simp only [NetworkManagerAdapter.step, applyDesired]
    split
    · exact tracked.add (by rintro _ _ ⟨⟩)
    · next desired isDesired =>
      have isSome : a.desiredFor id ≠ none := by
        rw [isDesired]
        exact Option.some_ne_none _
      split
      · exact tracked.add fun other options' same => by
          cases same
          exact isSome
      · exact tracked.add fun other options' same => by
          cases same
          exact isSome
  | answered call answer now =>
    simp only [NetworkManagerAdapter.step, answered]
    split
    · unfold saved
      split
      · exact tracked.put (by rintro _ _ ⟨⟩)
      · exact (tracked.setDesired _ _).put (by rintro _ _ ⟨⟩)
    · next id ifname options answer isCall =>
      unfold profileRead
      split
      · exact tracked.put (by rintro _ _ ⟨⟩)
      · exact tracked.put (by rintro _ _ ⟨⟩)
      · exact tracked.put fun other options' same => by
          cases same
          exact tracked.targets call _ id options isCall rfl
    · next id ifname options saved answer isCall =>
      unfold activated
      split
      · exact tracked.put (by rintro _ _ ⟨⟩)
      · split
        · exact tracked.put (by rintro _ _ ⟨⟩)
        · exact tracked.record (tracked.targets call _ id options isCall rfl)
    · next id ifname options answer isCall =>
      unfold deactivated
      split
      · exact tracked.put (by rintro _ _ ⟨⟩)
      · split
        · exact tracked.put (by rintro _ _ ⟨⟩)
        · exact tracked.record (tracked.targets call _ id options isCall rfl)
    · exact tracked
  | observe input => exact tracked.observe input

end Tracked

/-! ### One readout -/

theorem targetIfname_ne_none {slots : ConnectionSlots} (isDesired : slots.desired ≠ none) :
    targetIfname slots ≠ none := by
  obtain ⟨desired, isSome⟩ := Option.ne_none_iff_exists'.mp isDesired
  unfold targetIfname
  cases slots.applied <;> simp [isSome]

theorem Tracked.target (tracked : Tracked a) {item : JsString × ConnectionSlots}
    (mem : item ∈ a.slots.items) : targetIfname item.2 ≠ none := by
  have isDesired := tracked.desired item.1 (List.mem_map_of_mem mem)
  rw [desiredFor, OrderedMap.get_of_mem_items tracked.distinct mem] at isDesired
  exact targetIfname_ne_none isDesired

theorem outcomesOf_ids (tracked : Tracked a) (input : NmObservationInput) :
    (a.outcomesOf input).map NmConnectionOutcome.connectionId = a.slots.keys := by
  have each : ∀ item ∈ a.slots.items, ∃ outcome,
      (foldSlots input item.1 item.2).2 = some ⟨item.1, outcome⟩ := by
    intro item mem
    obtain ⟨outcome, isOutcome, _⟩ :=
      foldSlots_outcome input item.1 (tracked.target mem)
    exact ⟨outcome, isOutcome⟩
  unfold outcomesOf OrderedMap.keys
  generalize a.slots.items = items at each
  induction items with
  | nil => rfl
  | cons item items ih =>
    rw [List.forall_mem_cons] at each
    obtain ⟨outcome, isOutcome⟩ := each.1
    simp only [List.filterMap_cons, isOutcome, List.map_cons, ih each.2]

/-- A loss is an outcome of one tracked connection, whose applied slot the fold clears. -/
theorem slots_of_loss (tracked : Tracked a) {outcome : NmConnectionOutcome}
    (mem : outcome ∈ a.outcomesOf input) {loss : NmAppliedLoss}
    (isLoss : outcome.loss? = some loss) :
    ∃ slots, a.slots.get loss.connectionId = some slots ∧ outcome.connectionId = loss.connectionId ∧
      slots.applied = some loss.previous ∧
      (foldSlots input loss.connectionId slots).1.applied = none := by
  obtain ⟨item, isItem, isOutcome⟩ := List.mem_filterMap.mp mem
  obtain ⟨outcome', same, cases⟩ :=
    foldSlots_outcome input item.1 (tracked.target isItem)
  rw [same, Option.some.injEq] at isOutcome
  subst isOutcome
  rcases cases with ⟨loss', rfl, isId, previous, cleared⟩ | ⟨kept, _⟩
  · cases isLoss
    rw [isId]
    exact ⟨item.2, OrderedMap.get_of_mem_items tracked.distinct isItem, rfl, previous, cleared⟩
  · unfold NmConnectionOutcome.loss? at isLoss
    split at isLoss
    · next lost => exact absurd lost (kept _)
    · cases isLoss

theorem mem_losses (tracked : Tracked a) (folded : ¬ Stale a input) {loss : NmAppliedLoss}
    (mem : loss ∈ (a.outcomesOf input).filterMap NmConnectionOutcome.loss?) :
    a.appliedFor loss.connectionId = some loss.previous ∧
      (a.observe input).1.appliedFor loss.connectionId = none := by
  obtain ⟨outcome, isOutcome, isLoss⟩ := List.mem_filterMap.mp mem
  obtain ⟨slots, isSlots, _, previous, cleared⟩ := slots_of_loss tracked isOutcome isLoss
  unfold appliedFor
  rw [get_observe folded, isSlots]
  exact ⟨previous, cleared⟩

/-- A loss is reported for exactly the connections whose applied slot is cleared. -/
theorem loss_iff (tracked : Tracked a) (folded : ¬ Stale a input) (id : JsString) :
    (∃ loss ∈ (a.outcomesOf input).filterMap NmConnectionOutcome.loss?, loss.connectionId = id) ↔
      a.appliedFor id ≠ none ∧ (a.observe input).1.appliedFor id = none := by
  constructor
  · rintro ⟨loss, mem, rfl⟩
    obtain ⟨previous, cleared⟩ := mem_losses tracked folded mem
    exact ⟨previous ▸ Option.some_ne_none _, cleared⟩
  · rintro ⟨wasApplied, cleared⟩
    unfold appliedFor at wasApplied cleared
    rw [get_observe folded] at cleared
    cases isSlots : a.slots.get id with
    | none => simp [isSlots] at wasApplied
    | some =>
      rw [isSlots] at wasApplied cleared
      have isItem := OrderedMap.mem_items_of_get isSlots
      obtain ⟨outcome, isOutcome, lost | kept⟩ :=
        foldSlots_outcome input id (tracked.target isItem)
      · obtain ⟨loss, rfl, isId, _⟩ := lost
        have listed : ⟨id, .lost loss⟩ ∈ a.outcomesOf input :=
          List.mem_filterMap.mpr ⟨_, isItem, isOutcome⟩
        exact ⟨loss, List.mem_filterMap.mpr ⟨_, listed, rfl⟩, isId⟩
      · exact absurd (kept.2.symm.trans cleared) wasApplied

theorem losses_ids_sublist (tracked : Tracked a) (input : NmObservationInput) :
    List.Sublist
      (((a.outcomesOf input).filterMap NmConnectionOutcome.loss?).map NmAppliedLoss.connectionId)
      ((a.outcomesOf input).map NmConnectionOutcome.connectionId) := by
  have each : ∀ outcome ∈ a.outcomesOf input, ∀ loss, outcome.loss? = some loss →
      loss.connectionId = outcome.connectionId := by
    intro outcome mem loss isLoss
    obtain ⟨slots, _, isId, _⟩ := slots_of_loss tracked mem isLoss
    exact isId.symm
  generalize a.outcomesOf input = outcomes at each
  induction outcomes with
  | nil => exact List.Sublist.refl _
  | cons outcome outcomes ih =>
    rw [List.forall_mem_cons] at each
    cases isLoss : outcome.loss? with
    | none =>
      rw [List.filterMap_cons_none isLoss, List.map_cons]
      exact (ih each.2).cons _
    | some loss =>
      rw [List.filterMap_cons_some isLoss, List.map_cons, List.map_cons, each.1 loss isLoss]
      exact (ih each.2).cons_cons _

theorem exact_of_accepted (tracked : Tracked a) {generation : DeviceGeneration}
    {observedAt : EpochMillis} {outcomes : List NmConnectionOutcome} {losses : List NmAppliedLoss}
    (accepted : (a.observe input).2 = .accepted generation observedAt outcomes losses) :
    Exact a input outcomes losses := by
  have folded := not_stale_of_accepted accepted
  obtain ⟨_, isObserved, isResult⟩ := observe_folded folded
  rw [isResult] at accepted
  cases accepted
  have ids := outcomesOf_ids tracked input
  refine ⟨ids, tracked.distinct, ?_, loss_iff tracked folded, fun id => ?_,
    fun loss mem => (mem_losses tracked folded mem).1, ?_⟩
  · exact tracked.distinct.sublist (ids ▸ losses_ids_sublist tracked input)
  · rw [loss_iff tracked folded]
    constructor
    · rintro ⟨wasApplied, cleared⟩
      obtain ⟨applied, isApplied⟩ := Option.ne_none_iff_exists'.mp wasApplied
      refine ⟨applied, isApplied, ?_⟩
      rcases appliedFor_observe isApplied folded with ⟨kept, _⟩ | ⟨_, contradicts⟩
      · cases kept.symm.trans cleared
      · exact contradicts
    · rintro ⟨applied, isApplied, contradicts⟩
      rcases appliedFor_observe isApplied folded with ⟨_, agrees⟩ | ⟨cleared, _⟩
      · exact absurd agrees contradicts
      · exact ⟨isApplied ▸ Option.some_ne_none _, cleared⟩
  · -- what is left after the readout agrees with it
    have folded' : ¬ Stale (a.observe input).1 input := by
      rintro ⟨observed, same, lt⟩
      rw [isObserved] at same
      cases same
      exact Nat.lt_irrefl _ lt
    have tracked' := tracked.observe input
    rw [(observe_folded folded').2.2]
    refine List.eq_nil_iff_forall_not_mem.mpr fun loss mem => ?_
    obtain ⟨isApplied, cleared⟩ := mem_losses tracked' folded' mem
    cases before : a.appliedFor loss.connectionId with
    | none =>
      rw [appliedFor_observe_none before folded] at isApplied
      cases isApplied
    | some =>
      rcases appliedFor_observe before folded with ⟨kept, agrees⟩ | ⟨gone, _⟩
      · rcases appliedFor_observe kept folded' with ⟨kept', _⟩ | ⟨_, contradicts⟩
        · cases kept'.symm.trans cleared
        · exact contradicts agrees
      · cases gone.symm.trans isApplied

/-! ### Runs -/

/-- What a call has recorded for a connection is gone. -/
def Spent (a : NetworkManagerAdapter) (report : JsString × Nat) : Prop :=
  (∃ result, a.calls report.2 = some (.applied result)) ∧
    (a.held report.1).map Prod.snd ≠ some report.2

variable {result : NmApplyResult}

theorem settled_put {call other : Nat} {stands before : Call} (isCall : a.calls call = some before)
    (pending : before.result = none) (settled : a.calls other = some (.applied result)) :
    (a.put call stands).calls other = some (.applied result) := by
  have differs : other ≠ call := by
    rintro rfl
    rw [isCall, Option.some.injEq] at settled
    rw [settled] at pending
    cases pending
  simpa [put, differs] using settled

theorem settled_add (sound : Sound a) {other : Nat} {stands : Call}
    (settled : a.calls other = some (.applied result)) :
    (a.add stands).calls other = some (.applied result) := by
  have differs : other ≠ a.called := by
    rintro rfl
    rw [sound.fresh a.called (Nat.le_refl _)] at settled
    cases settled
  simpa [add, put, differs] using settled

/-- A call that has settled stays as it is. -/
theorem settled_step (sound : Sound a) (settled : a.calls call = some (.applied result))
    (event : Event) : (a.step event).calls call = some (.applied result) := by
  cases event with
  | saveDesiredProfile => exact settled_add sound settled
  | releaseDesired =>
    simp only [step, releaseDesired]
    split
    · exact settled
    · exact settled
  | applyDesired =>
    simp only [step, applyDesired]
    split
    · exact settled_add sound settled
    · split <;> exact settled_add sound settled
  | observe => exact settled
  | answered other answer now =>
    simp only [step, answered]
    split
    · next request answer isCall =>
      unfold saved
      split
      · exact settled_put isCall rfl settled
      · exact settled_put (a := a.setDesired _ _) isCall rfl settled
    · next id ifname options answer isCall =>
      unfold profileRead
      split <;> exact settled_put isCall rfl settled
    · next id ifname options saved answer isCall =>
      unfold activated
      split
      · exact settled_put isCall rfl settled
      · split <;> exact settled_put isCall rfl settled
    · next id ifname options answer isCall =>
      unfold deactivated
      split
      · exact settled_put isCall rfl settled
      · split <;> exact settled_put isCall rfl settled
    · exact settled

/-- An applied slot is kept or cleared, or recorded by a call that had not settled. -/
def HeldFrom (a a' : NetworkManagerAdapter) (id : JsString) : Prop :=
  a'.held id = a.held id ∨ a'.held id = none ∨
    ∃ call stands, a.calls call = some stands ∧ stands.result = none ∧
      (a'.held id).map Prod.snd = some call

theorem heldFrom_record {before : Call} (isCall : a.calls call = some before)
    (pending : before.result = none) {id : JsString} {configuration : NmBearerState}
    {options : NmApplyOptions} {now : EpochMillis} {receipt : PolicyReceipt} (other : JsString) :
    HeldFrom a (a.record call id configuration options now receipt) other := by
  by_cases same : other = id
  · subst same
    exact .inr (.inr ⟨call, before, isCall, pending, held_record⟩)
  · left
    unfold held
    rw [appliedFor_record, if_neg same]
    simp [record, same]

theorem heldFrom_step (event : Event) (id : JsString) : HeldFrom a (a.step event) id := by
  cases event with
  | saveDesiredProfile => exact .inl rfl
  | releaseDesired =>
    simp only [step, releaseDesired]
    split
    · exact .inl rfl
    · left
      unfold held
      rw [appliedFor_setDesired]
      rfl
  | applyDesired =>
    simp only [step, applyDesired]
    split
    · exact .inl rfl
    · split <;> exact .inl rfl
  | observe input =>
    by_cases stale : Stale a input
    · obtain ⟨current, unchanged⟩ := observe_stale stale
      left
      rw [step, unchanged]
    · unfold HeldFrom held step
      cases before : a.appliedFor id with
      | none => exact .inl (by rw [appliedFor_observe_none before stale]; rfl)
      | some =>
        rcases appliedFor_observe before stale with ⟨kept, _⟩ | ⟨cleared, _⟩
        · exact .inl (by rw [kept]; rfl)
        · exact .inr (.inl (by rw [cleared]; rfl))
  | answered call answer now =>
    simp only [step, answered]
    split
    · unfold saved
      split
      · exact .inl rfl
      · left
        unfold held
        rw [show ((a.setDesired _ _).put call _).appliedFor id = _ from appliedFor_setDesired]
        rfl
    · unfold profileRead
      split <;> exact .inl rfl
    · next isCall =>
      unfold activated
      split
      · exact .inl rfl
      · split
        · exact .inl rfl
        · exact heldFrom_record isCall rfl id
    · next isCall =>
      unfold deactivated
      split
      · exact .inl rfl
      · split
        · exact .inl rfl
        · exact heldFrom_record isCall rfl id
    · exact .inl rfl

theorem Spent.step (sound : Sound a) {report : JsString × Nat} (spent : Spent a report)
    (event : Event) : Spent (a.step event) report := by
  obtain ⟨⟨result, settled⟩, gone⟩ := spent
  refine ⟨⟨result, settled_step sound settled event⟩, fun isHeld => ?_⟩
  rcases heldFrom_step event report.1 with kept | cleared | ⟨call, stands, isCall, pending, isNew⟩
  · exact gone (kept ▸ isHeld)
  · rw [cleared] at isHeld
    cases isHeld
  · rw [isNew] at isHeld
    cases isHeld
    rw [settled] at isCall
    cases isCall
    cases pending

/-- What an event reports was recorded, and is gone after it. -/
theorem reported_spent (sound : Sound a) (tracked : Tracked a) {event : Event}
    {report : JsString × Nat} (mem : report ∈ a.reports event) :
    (a.held report.1).map Prod.snd = some report.2 ∧ Spent (a.step event) report := by
  cases event with
  | observe input =>
    obtain ⟨loss, isLoss, rfl⟩ := List.mem_map.mp mem
    have folded : ¬ Stale a input := by
      intro stale
      obtain ⟨current, unchanged⟩ := observe_stale stale
      rw [unchanged] at isLoss
      cases isLoss
    rw [(observe_folded folded).2.2] at isLoss
    obtain ⟨previous, cleared⟩ := mem_losses tracked folded isLoss
    obtain ⟨result, settled⟩ := sound.recorded _ _ previous
    have isGone : (a.step (.observe input)).held loss.connectionId = none := by
      unfold held step
      rw [cleared]
      rfl
    refine ⟨by simp [held, previous], ⟨result, settled⟩, ?_⟩
    simp [isGone]
  | saveDesiredProfile | releaseDesired | applyDesired | answered => cases mem

theorem reports_nodup (tracked : Tracked a) (event : Event) : (a.reports event).Nodup := by
  cases event with
  | observe input =>
    by_cases stale : Stale a input
    · obtain ⟨current, unchanged⟩ := observe_stale stale
      rw [reports, unchanged]
      exact List.nodup_nil
    · have isResult := (observe_folded stale).2.2
      have once := (exact_of_accepted tracked isResult).once
      rw [reports, isResult]
      refine List.Nodup.of_map Prod.fst ?_
      rw [List.map_map]
      exact once
  | saveDesiredProfile | releaseDesired | applyDesired | answered => exact List.nodup_nil

/-- After any run, an accepted readout reports a loss for exactly the tracked connections whose
applied slot it clears, which are those it contradicts; and no run reports twice that what one call
recorded is lost. -/
theorem losses_exact (events : List Event) :
    (∀ input generation observedAt outcomes losses,
      ((run events).observe input).2 = .accepted generation observedAt outcomes losses →
        Exact (run events) input outcomes losses) ∧
      (emitted step reports new events).Nodup := by
  constructor
  · intro input generation observedAt outcomes losses accepted
    have tracked : Tracked (events.foldl step new) :=
      foldl_keeps (fun _ event tracked => tracked.step event) tracked_new
    exact exact_of_accepted tracked accepted
  · refine (nodup_emitted (fun a => Sound a ∧ Tracked a) Spent ?_ ?_ ?_ ?_ ?_
      ⟨sound_new, tracked_new⟩).1
    · exact fun a event inv => ⟨inv.1.step event, inv.2.step event⟩
    · exact fun a event inv => reports_nodup inv.2 event
    · exact fun a event report inv mem spent => spent.2 (reported_spent inv.1 inv.2 mem).1
    · exact fun a event report inv mem => (reported_spent inv.1 inv.2 mem).2
    · exact fun a event report inv spent => spent.step inv.1 event

end NetworkManagerAdapter

end ModemStack.NetworkManager
