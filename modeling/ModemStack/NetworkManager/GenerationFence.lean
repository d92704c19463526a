import ModemStack.Async.Steps
import ModemStack.NetworkManager.Adapter

/-!
The generation fence between applies and readouts.

A readout is compared with the last readout that was folded, not with what has been applied since,
and an apply that completes is compared with nothing. `fenced_iff` says which events the fence
holds at.
-/

namespace ModemStack.NetworkManager

open ModemStack.Async ModemStack.Data ModemStack.Domain ModemStack.Ports ModemStack.Text

def NmObservationResult.losses : NmObservationResult → List NmAppliedLoss
  | .refused _ => []
  | .accepted _ _ _ losses => losses

/-- The readout shows what is applied on its device: not failed, and with no connection or, coming
up or activated, with this one. -/
def NmObservationInput.Agrees (input : NmObservationInput) (id : JsString)
    (applied : AppliedConfiguration NmBearerState) : Prop :=
  ∃ device, input.deviceMap.get applied.configuration.deviceIfname = some device ∧
    device.state ≠ .failed ∧
    match applied.configuration with
    | .unbound _ => device.activeConnection = none
    | .bound _ => (∃ active, device.activeConnection = some active ∧ active.connectionId = id) ∧
        (device.state = .activated ∨ device.state.transitional)

namespace NetworkManagerAdapter

variable {a : NetworkManagerAdapter}

/-! ### The property -/

/-- The connection and the options of an apply that is under way. -/
def Call.target : Call → Option (JsString × NmApplyOptions)
  | .reading id _ options => some (id, options)
  | .activating id _ options _ => some (id, options)
  | .deactivating id _ options => some (id, options)
  | _ => none

def Call.awaitsReceipt : Call → Bool
  | .activating _ _ _ _ | .deactivating _ _ _ => true
  | _ => false

/-- The applied slot, and the call that recorded it. -/
def held (a : NetworkManagerAdapter) (id : JsString) :
    Option (AppliedConfiguration NmBearerState × Nat) :=
  (a.appliedFor id).map fun applied => (applied, a.recordedBy id)

/-- The last readout was folded. -/
def Stale (a : NetworkManagerAdapter) (input : NmObservationInput) : Prop :=
  ∃ observed, a.observedGeneration = some observed ∧ input.context.generation < observed

/-- A readout of a later generation has been folded, or a newer apply of the connection recorded:
one of a later generation, or a later call of the same. -/
def Overtaken (a : NetworkManagerAdapter) (call : Nat) (id : JsString) (options : NmApplyOptions) :
    Prop :=
  (∃ observed, a.observedGeneration = some observed ∧ options.generation < observed) ∨
    ∃ applied, a.appliedFor id = some applied ∧ (options.generation < applied.generation ∨
      options.generation = applied.generation ∧ call < a.recordedBy id)

structure Fenced (a : NetworkManagerAdapter) (event : Event) : Prop where
  desired : ∀ input, event = .observe input → ∀ id,
    (a.step event).desiredFor id = a.desiredFor id
  older : ∀ input, event = .observe input → ∀ id applied, a.appliedFor id = some applied →
    input.context.generation < applied.generation → (a.step event).appliedFor id = some applied
  late : ∀ call answer now, event = .answered call answer now → ∀ stands id options,
    a.calls call = some stands → stands.target = some (id, options) →
    Overtaken a call id options → (a.step event).held id = a.held id
  refused : ∀ input current, event = .observe input → (a.observe input).2 = .refused current →
    a.step event = a ∧ (a.observe input).2.losses = []

/-- A readout that is folded is not older than an applied slot it contradicts; an apply that takes
effect has not been overtaken. -/
def InOrder (a : NetworkManagerAdapter) : Event → Prop
  | .observe input => Stale a input ∨ ∀ id applied, a.appliedFor id = some applied →
      input.context.generation < applied.generation → input.Agrees id applied
  | .answered call (.receipt (.ok receipt)) _ => receipt.status = .applied →
      ∀ stands id options, a.calls call = some stands → stands.awaitsReceipt →
        stands.target = some (id, options) → ¬ Overtaken a call id options
  | _ => True

/-! ### Readouts -/

@[simp] theorem desired_foldSlots (input : NmObservationInput) (id : JsString)
    (slots : ConnectionSlots) : (foldSlots input id slots).1.desired = slots.desired := by
  unfold foldSlots
  split <;> rfl

variable {input : NmObservationInput} {id : JsString}

theorem applied_foldSlots_none {slots : ConnectionSlots} (unapplied : slots.applied = none) :
    (foldSlots input id slots).1.applied = none := by
  unfold foldSlots
  split
  · exact unapplied
  · simp [classifyApplied, unapplied]

theorem applied_foldSlots {slots : ConnectionSlots} {applied : AppliedConfiguration NmBearerState}
    (isApplied : slots.applied = some applied) :
    (foldSlots input id slots).1.applied = some applied ∧ input.Agrees id applied ∨
      (foldSlots input id slots).1.applied = none ∧ ¬ input.Agrees id applied := by
  simp only [foldSlots, targetIfname, isApplied, classifyApplied, NmObservationInput.Agrees]
  cases isDevice : input.deviceMap.get applied.configuration.deviceIfname with
  | none => simp
  | some device =>
    by_cases failed : device.state = .failed
    · simp [failed]
    · cases configuration : applied.configuration with
      | unbound => cases active : device.activeConnection <;> simp [failed, active]
      | bound =>
        cases isActive : device.activeConnection with
        | none => simp [failed, isActive]
        | some active =>
          by_cases replaced : active.connectionId = id
          · by_cases activated : device.state = .activated
            · simp [isActive, replaced, activated]
            · by_cases coming : device.state.transitional
              · simp [failed, isActive, replaced, activated, coming]
              · simp [failed, isActive, replaced, activated, coming]
          · simp [failed, isActive, replaced]

/-- A readout that is not stale is folded into every connection. -/
theorem get_observe (folded : ¬ Stale a input) (id : JsString) : (a.observe input).1.slots.get id =
      (a.slots.get id).map fun slots => (foldSlots input id slots).1 := by
  have accepted : (foldObservation a.slots a.observedGeneration input).slotsByConnection =
      ⟨a.slots.items.map fun item => (item.1, (foldSlots input item.1 item.2).1)⟩ := by
    unfold foldObservation
    split
    · simp [Function.comp_def]
    · next observed isObserved =>
      rw [if_neg fun lt => folded ⟨observed, isObserved, lt⟩]
      simp [Function.comp_def]
  simp only [observe, accepted]
  exact OrderedMap.get_mapItems a.slots (fun id slots => (foldSlots input id slots).1) id

theorem foldObservation_stale {slots : SlotsByConnection} {observed : DeviceGeneration}
    (lt : input.context.generation < observed) :
    foldObservation slots (some observed) input = ⟨slots, observed, .refused observed⟩ :=
  if_pos lt

theorem observe_stale (stale : Stale a input) :
    ∃ current, a.observe input = (a, .refused current) := by
  obtain ⟨observed, isObserved, lt⟩ := stale
  refine ⟨observed, ?_⟩
  obtain ⟨slots, observedGeneration, calls, called, recordedBy⟩ := a
  cases isObserved
  simp only [observe, foldObservation_stale lt]

theorem stale_of_refused {current : DeviceGeneration}
    (refused : (a.observe input).2 = .refused current) : Stale a input := by
  change (foldObservation a.slots a.observedGeneration input).result = .refused current at refused
  unfold foldObservation at refused
  cases isObserved : a.observedGeneration with
  | none =>
    rw [isObserved] at refused
    cases refused
  | some observed =>
    by_cases lt : input.context.generation < observed
    · exact ⟨observed, isObserved, lt⟩
    · simp [isObserved, lt] at refused

theorem desiredFor_observe (input : NmObservationInput) (id : JsString) :
    (a.observe input).1.desiredFor id = a.desiredFor id := by
  by_cases stale : Stale a input
  · obtain ⟨current, unchanged⟩ := observe_stale stale
    rw [unchanged]
  · unfold desiredFor
    rw [get_observe stale]
    cases a.slots.get id with
    | none => rfl
    | some => simp

theorem appliedFor_observe_none (unapplied : a.appliedFor id = none) (folded : ¬ Stale a input) :
    (a.observe input).1.appliedFor id = none := by
  unfold appliedFor at unapplied ⊢
  rw [get_observe folded]
  cases isSlots : a.slots.get id with
  | none => rfl
  | some =>
    rw [isSlots] at unapplied
    simpa using applied_foldSlots_none unapplied

/-- The fold keeps an applied slot or clears it, as the readout agrees with it or not. -/
theorem appliedFor_observe {applied : AppliedConfiguration NmBearerState}
    (isApplied : a.appliedFor id = some applied) (folded : ¬ Stale a input) :
    (a.observe input).1.appliedFor id = some applied ∧ input.Agrees id applied ∨
      (a.observe input).1.appliedFor id = none ∧ ¬ input.Agrees id applied := by
  unfold appliedFor at isApplied ⊢
  rw [get_observe folded]
  obtain ⟨slots, isSlots, isApplied⟩ := Option.bind_eq_some_iff.mp isApplied
  rw [isSlots]
  simpa using applied_foldSlots isApplied

/-! ### The invariant -/

/-- What an apply has settled with. -/
def Call.result : Call → Option NmApplyResult
  | .applied result => some result
  | _ => none

/-- What an applied slot was recorded by has settled. -/
structure Sound (a : NetworkManagerAdapter) : Prop where
  recorded : ∀ id applied, a.appliedFor id = some applied →
    ∃ result, a.calls (a.recordedBy id) = some (.applied result)
  fresh : ∀ call, a.called ≤ call → a.calls call = none

theorem sound_new : Sound .new := ⟨nofun, fun _ _ => rfl⟩

@[simp] theorem appliedFor_setDesired {id other : JsString}
    {desired : DesiredProfile NmBearerState} :
    (a.setDesired id desired).appliedFor other = a.appliedFor other := by
  unfold appliedFor setDesired
  by_cases same : other = id
  · subst same
    cases isSlots : a.slots.get other <;> simp [slotsFor, isSlots, ConnectionSlots.empty]
  · simp [same]

variable {call : Nat} {options : NmApplyOptions}

theorem appliedFor_record {id other : JsString} {configuration : NmBearerState} {now : EpochMillis}
    {receipt : PolicyReceipt} :
    (a.record call id configuration options now receipt).appliedFor other =
      if other = id then
        some ⟨configuration, now, options.generation, options.operationId⟩
      else a.appliedFor other := by
  unfold appliedFor record
  by_cases same : other = id <;> simp [same]

namespace Sound

theorem put (sound : Sound a) {call : Nat} {before stands : Call}
    (isCall : a.calls call = some before) (pending : before.result = none) :
    Sound (a.put call stands) where
  recorded id applied isApplied := by
    obtain ⟨result, settled⟩ := sound.recorded id applied isApplied
    have differs : a.recordedBy id ≠ call := by
      intro same
      rw [same, isCall] at settled
      cases settled
      cases pending
    exact ⟨result, by simp [NetworkManagerAdapter.put, differs, settled]⟩
  fresh other le := by
    have differs : other ≠ call := by
      rintro rfl
      rw [sound.fresh other le] at isCall
      cases isCall
    simpa [NetworkManagerAdapter.put, differs] using sound.fresh other le

theorem add (sound : Sound a) (stands : Call) : Sound (a.add stands) where
  recorded id applied isApplied := by
    obtain ⟨result, settled⟩ := sound.recorded id applied isApplied
    have differs : a.recordedBy id ≠ a.called := by
      intro same
      rw [same, sound.fresh a.called (Nat.le_refl _)] at settled
      cases settled
    exact ⟨result, by simp [NetworkManagerAdapter.add, NetworkManagerAdapter.put, differs, settled]⟩
  fresh call le := by
    have lt : a.called < call := le
    simpa [NetworkManagerAdapter.add, NetworkManagerAdapter.put, lt.ne'] using
      sound.fresh call (Nat.le_of_lt lt)

theorem setDesired (sound : Sound a) (id : JsString) (desired : DesiredProfile NmBearerState) :
    Sound (a.setDesired id desired) where
  recorded other applied isApplied :=
    sound.recorded other applied (appliedFor_setDesired.symm.trans isApplied)
  fresh := sound.fresh

theorem record (sound : Sound a) {call : Nat} {before : Call} (isCall : a.calls call = some before)
    (pending : before.result = none) {id : JsString} {configuration : NmBearerState}
    {options : NmApplyOptions} {now : EpochMillis} {receipt : PolicyReceipt} :
    Sound (a.record call id configuration options now receipt) := by
  have put : Sound (a.put call (.applied (.applied
      ⟨configuration, now, options.generation, options.operationId⟩ receipt))) :=
    sound.put isCall pending
  refine ⟨fun other applied isApplied => ?_, put.fresh⟩
  rw [appliedFor_record] at isApplied
  by_cases same : other = id
  · subst same
    simp [NetworkManagerAdapter.record, NetworkManagerAdapter.put]
  · rw [if_neg same] at isApplied
    obtain ⟨result, settled⟩ := put.recorded other applied isApplied
    refine ⟨result, ?_⟩
    simpa [NetworkManagerAdapter.record, NetworkManagerAdapter.put, same] using settled

theorem observe (sound : Sound a) (input : NmObservationInput) : Sound (a.observe input).1 := by
  refine ⟨fun id applied isApplied => ?_, sound.fresh⟩
  by_cases stale : Stale a input
  · obtain ⟨current, unchanged⟩ := observe_stale stale
    rw [unchanged] at isApplied
    exact sound.recorded id applied isApplied
  · cases before : a.appliedFor id with
    | none =>
      rw [appliedFor_observe_none before stale] at isApplied
      cases isApplied
    | some applied' => exact sound.recorded id applied' before

theorem step (sound : Sound a) (event : Event) : Sound (a.step event) := by
  cases event with
  | saveDesiredProfile => exact sound.add _
  | releaseDesired id requestedBy now =>
    simp only [NetworkManagerAdapter.step, releaseDesired]
    split
    · exact sound
    · exact sound.setDesired id _
  | applyDesired =>
    simp only [NetworkManagerAdapter.step, applyDesired]
    split
    · exact sound.add _
    · split <;> exact sound.add _
  | answered call answer now =>
    simp only [NetworkManagerAdapter.step, answered]
    split
    · next request answer isCall =>
      unfold saved
      split
      · exact sound.put isCall rfl
      · next profile =>
        exact put (sound.setDesired _ _)
          (show (a.setDesired _ _).calls call = some (.saving request) from isCall) rfl
    · next id ifname options answer isCall =>
      unfold profileRead
      split
      · exact sound.put isCall rfl
      · exact sound.put isCall rfl
      · exact sound.put isCall rfl
    · next id ifname options saved answer isCall =>
      unfold activated
      split
      · exact sound.put isCall rfl
      · split
        · exact sound.put isCall rfl
        · exact sound.record isCall rfl
    · next id ifname options answer isCall =>
      unfold deactivated
      split
      · exact sound.put isCall rfl
      · split
        · exact sound.put isCall rfl
        · exact sound.record isCall rfl
    · exact sound
  | observe input => exact sound.observe input

end Sound

/-! ### The steps -/

theorem held_record {configuration : NmBearerState} {now : EpochMillis} {receipt : PolicyReceipt} :
    ((a.record call id configuration options now receipt).held id).map Prod.snd = some call := by
  unfold held
  rw [appliedFor_record, if_pos rfl]
  simp [record]

/-- An answer to an apply records its connection's applied slot, if it is the receipt that the
change is applied, and leaves the slot alone otherwise. -/
theorem held_answered {stands : Call} (isCall : a.calls call = some stands)
    (isTarget : stands.target = some (id, options)) (answer : Answer) (now : EpochMillis) :
    (∃ receipt, answer = .receipt (.ok receipt) ∧ receipt.status = .applied ∧
        stands.awaitsReceipt = true ∧
        ((a.answered call answer now).held id).map Prod.snd = some call) ∨
      (∀ receipt, answer = .receipt (.ok receipt) → receipt.status = .applied →
        stands.awaitsReceipt = false) ∧ (a.answered call answer now).held id = a.held id := by
  cases stands with
  | saving | saved | applied | rejected => cases isTarget
  | reading =>
    refine .inr ⟨fun _ _ _ => rfl, ?_⟩
    simp only [answered, isCall]
    split
    · next same => cases same
    · next same =>
      cases same
      unfold profileRead
      split <;> rfl
    · next same => cases same
    · next same => cases same
    · rfl
  | activating =>
    cases isTarget
    cases answer with
    | profile | read => exact .inr ⟨nofun, by simp only [answered, isCall]⟩
    | receipt answer =>
      simp only [answered, isCall]
      cases answer with
      | error => exact .inr ⟨nofun, rfl⟩
      | ok receipt =>
        by_cases status : receipt.status = .applied
        · refine .inl ⟨receipt, rfl, status, rfl, ?_⟩
          simp only [activated, status, ne_eq, not_true, if_false]
          exact held_record
        · refine .inr ⟨?_, ?_⟩
          · rintro _ ⟨⟩ applied
            exact absurd applied status
          · simp only [activated, ne_eq, status, not_false_eq_true, if_true]
            rfl
  | deactivating =>
    cases isTarget
    cases answer with
    | profile | read => exact .inr ⟨nofun, by simp only [answered, isCall]⟩
    | receipt answer =>
      simp only [answered, isCall]
      cases answer with
      | error => exact .inr ⟨nofun, rfl⟩
      | ok receipt =>
        by_cases status : receipt.status = .applied
        · refine .inl ⟨receipt, rfl, status, rfl, ?_⟩
          simp only [deactivated, status, ne_eq, not_true, if_false]
          exact held_record
        · refine .inr ⟨?_, ?_⟩
          · rintro _ ⟨⟩ applied
            exact absurd applied status
          · simp only [deactivated, ne_eq, status, not_false_eq_true, if_true]
            rfl

/-- An apply that is under way has recorded nothing. -/
theorem Sound.held_ne (sound : Sound a) {stands : Call} (isCall : a.calls call = some stands)
    (isTarget : stands.target = some (id, options)) : (a.held id).map Prod.snd ≠ some call := by
  intro recorded
  cases isApplied : a.appliedFor id with
  | none => simp [held, isApplied] at recorded
  | some applied =>
    obtain ⟨result, settled⟩ := sound.recorded id applied isApplied
    have same : a.recordedBy id = call := by simpa [held, isApplied] using recorded
    rw [same, isCall] at settled
    cases settled
    cases isTarget

theorem Sound.inOrder (sound : Sound a) {event : Event} (fenced : Fenced a event) :
    InOrder a event := by
  unfold InOrder
  split
  · next input =>
    by_cases stale : Stale a input
    · exact .inl stale
    · refine .inr fun id applied isApplied lt => ?_
      have kept := fenced.older input rfl id applied isApplied lt
      obtain ⟨-, agrees⟩ | ⟨cleared, -⟩ := appliedFor_observe isApplied stale
      · exact agrees
      · cases kept.symm.trans cleared
  · next call receipt now =>
    intro status stands id options isCall awaits isTarget overtaken
    have same := fenced.late call _ now rfl stands id options isCall isTarget overtaken
    obtain ⟨-, -, -, -, recorded⟩ | ⟨kept, -⟩ :=
      held_answered isCall isTarget (.receipt (.ok receipt)) now
    · have same : ((a.answered call (.receipt (.ok receipt)) now).held id) = a.held id := same
      rw [same] at recorded
      exact sound.held_ne isCall isTarget recorded
    · rw [kept receipt rfl status] at awaits
      cases awaits
  · trivial

theorem fenced_of_inOrder {event : Event} (inOrder : InOrder a event) : Fenced a event where
  desired input isEvent id := by
    subst isEvent
    exact desiredFor_observe input id
  older input isEvent id applied isApplied lt := by
    subst isEvent
    by_cases stale : Stale a input
    · obtain ⟨current, unchanged⟩ := observe_stale stale
      simpa only [step, unchanged] using isApplied
    · have agrees := (inOrder.resolve_left stale) id applied isApplied lt
      obtain ⟨kept, -⟩ | ⟨-, contradicted⟩ := appliedFor_observe isApplied stale
      · exact kept
      · exact absurd agrees contradicted
  late call answer now isEvent stands id options isCall isTarget overtaken := by
    subst isEvent
    obtain ⟨receipt, rfl, status, awaits, -⟩ | ⟨-, kept⟩ := held_answered isCall isTarget answer now
    · exact absurd overtaken (inOrder status stands id options isCall awaits isTarget)
    · exact kept
  refused input current isEvent isRefused := by
    subst isEvent
    obtain ⟨current, unchanged⟩ := observe_stale (stale_of_refused isRefused)
    simp [step, unchanged, NmObservationResult.losses]

/-- The fence holds at every event of a run exactly when every event is in order. -/
theorem fenced_iff (events : List Event) :
    AllowsEvents step Fenced new events ↔ AllowsEvents step InOrder new events :=
  allowsEvents_congr (fun _ event sound => sound.step event)
    (fun _ _ sound => ⟨sound.inOrder, fenced_of_inOrder⟩) sound_new

/-- A profile for `wwan0`, saved and read back. -/
def profile : GsmProfile where
  connectionName := js "cell-primary"
  apn := js "internet"
  username := none
  password := none
  homeOnly := true
  autoConfig := false
  networkId := none
  connectionId := js "uuid"

def context (generation : DeviceGeneration) : NormalizationContext :=
  ⟨js "slot:a", generation, 0, 0, none⟩

/-- The profile is saved and an apply under generation `generation` is called and reads it. -/
def applies (generation : DeviceGeneration) : List Event :=
  [.saveDesiredProfile ⟨profile.toGsmProfileInput, js "wwan0", js "rpc", none⟩,
    .answered 0 (.profile (.ok profile)) 0,
    .applyDesired (js "uuid") ⟨js "op", generation⟩,
    .answered 1 (.read (.ok (some profile))) 0]

def completes : Event := .answered 1 (.receipt (.ok ⟨.connection, .applied, js ""⟩)) 0

/-- A readout of generation 8, of an apply under generation 9, does not show the device yet; and an
apply under generation 7 completes after a readout of generation 8. -/
theorem fenced_fails :
    ¬ AllowsEvents step Fenced new (applies 9 ++ [completes, .observe ⟨context 8, []⟩]) ∧
      ¬ AllowsEvents step Fenced new (applies 7 ++ [.observe ⟨context 8, []⟩, completes]) := by
  constructor
  · rintro ⟨-, -, -, -, -, fenced, -⟩
    cases fenced.older _ rfl (js "uuid") _ rfl (by decide)
  · rintro ⟨-, -, -, -, -, fenced, -⟩
    cases fenced.late 1 _ 0 rfl _ _ _ rfl rfl (.inl ⟨8, rfl, by decide⟩)

end NetworkManagerAdapter

end ModemStack.NetworkManager
