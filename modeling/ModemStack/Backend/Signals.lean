import ModemStack.Backend.ObserverLaws

/-!
What becomes of the change signals an observer accepts.

Three flags stand for signals that have not led to a request yet: one while the
observer starts, and the pair of a running and a queued refresh. A signal is lost
when a start that has taken it fails, or when it comes after a start has failed;
in all other runs a tree is asked for after every accepted signal, and reconciled
when it comes under the same owner (`signal_answered`).
-/

namespace ModemStack.Backend.Observer

variable {o o' : Observer} {event : Event}

/-! ### Accepted signals -/

/-- The steps in which `start` rejects, when marking the rows would emit to a listener
that throws. -/
def MayFailStart (o : Observer) : Event → Prop
  | .connected ok => ok = false
  | .subscribed ok => ok = false
  | .ownerReply id _ throws => throws = true ∧ ∃ a ∈ o.adoptions, a.id = id ∧ a.starting = true
  | .treeReply id _ _ rethrows => rethrows = true ∧ ∃ r ∈ o.refreshes, r.id = id ∧ r.starting = true
  | _ => False

/-- A signal from the tracked owner. -/
def Accepts (o : Observer) : Event → Prop
  | .objectSignal _ signal => isCurrentOwnerSignal signal o.currentOwner = true
  | _ => False

instance (o : Observer) : (event : Event) → Decidable (o.MayFailStart event)
  | .connected _ => inferInstanceAs (Decidable (_ = _))
  | .subscribed _ => inferInstanceAs (Decidable (_ = _))
  | .ownerReply _ _ _ => inferInstanceAs (Decidable (_ ∧ _))
  | .treeReply _ _ _ _ => inferInstanceAs (Decidable (_ ∧ _))
  | .start | .adopted | .stop | .objectSignal _ _ | .nameOwnerChanged _ _ | .disconnected _
  | .reconnected => .isFalse id

instance (o : Observer) : (event : Event) → Decidable (o.Accepts event)
  | .objectSignal _ _ => inferInstanceAs (Decidable (_ = _))
  | .start | .connected _ | .subscribed _ | .adopted | .stop | .nameOwnerChanged _ _
  | .disconnected _ | .reconnected | .ownerReply _ _ _ | .treeReply _ _ _ _ => .isFalse id

/-- A start that has taken a signal does not fail, and none is accepted after one has. -/
def Heard (o : Observer) (event : Event) : Prop :=
  (o.MayFailStart event → o.refreshDuringPrime = false) ∧ (o.Accepts event → o.phase ≠ .failed)

instance (o : Observer) (event : Event) : Decidable (o.Heard event) :=
  inferInstanceAs (Decidable (_ ∧ _))

/-- The observer has not been stopped, and tracks the owner. -/
structure Keeps (owner : Owner) (o : Observer) : Prop where
  tracked : o.currentOwner = some owner
  live : o.stopped = false

/-- A tree has been asked for since `before` requests had been made, or a flag is up that
leads to a request. Requests made since are for the owner. -/
structure Pursued (owner : Owner) (before : Nat) (o : Observer) : Prop where
  later : before ≤ o.requested
  flagged : before < o.requested ∨
    (o.priming = true ∧ o.refreshDuringPrime = true ∧ o.phase.inProgress = true) ∨
    (o.refreshQueued = true ∧ o.refreshing = true)
  asked : ∀ r ∈ o.refreshes, before ≤ r.id → r.epochOwner = owner

variable {owner : Owner} {before : Nat}

theorem Pursued.runRefresh (later : before ≤ o.requested)
    (asked : ∀ r ∈ o.refreshes, before ≤ r.id → r.epochOwner = owner) (starting : Bool) :
    (o.runRefresh owner starting).Pursued owner before where
  later := Nat.le_succ_of_le later
  flagged := .inl (Nat.lt_succ_of_le later)
  asked := by
    intro r mem since
    rcases mem_runRefresh mem with old | rfl
    · exact asked r old since
    · rfl

/-- Scheduling a refresh pursues a signal that has just come. -/
theorem Pursued.scheduleRefresh (keeps : o.Keeps owner) (later : before ≤ o.requested)
    (asked : ∀ r ∈ o.refreshes, before ≤ r.id → r.epochOwner = owner) :
    o.scheduleRefresh.Pursued owner before := by
  have scheduled := scheduleRefresh_cases o
  generalize o.scheduleRefresh = o' at scheduled
  cases scheduled with
  | ignored gone =>
    rcases gone with gone | stopped
    · cases keeps.tracked.symm.trans gone
    · cases keeps.live.symm.trans stopped
  | queued busy => exact ⟨later, .inr (.inr ⟨rfl, busy⟩), asked⟩
  | requested other tracked idle =>
    obtain rfl := Option.some.inj (keeps.tracked.symm.trans tracked)
    exact .runRefresh later asked false

theorem Pursued.arrival (wired : o.Wired) (keeps : o.Keeps owner) {signal : SignalEvent}
    (accepted : isCurrentOwnerSignal signal (some owner) = true) (going : o.phase ≠ .failed) :
    (o.onObjectSignal signal).Pursued owner o.requested := by
  have asked : ∀ r ∈ o.refreshes, o.requested ≤ r.id → r.epochOwner = owner :=
    fun r mem since => absurd (wired.ids r mem) (Nat.not_lt.mpr since)
  rw [onObjectSignal, keeps.tracked, if_neg (by rw [accepted]; decide)]
  split_ifs with priming
  · obtain ⟨started, pending⟩ := wired.priming priming
    refine ⟨Nat.le_refl _, .inr (.inl ⟨priming, rfl, ?_⟩), asked⟩
    show o.phase.inProgress = true
    cases phase : o.phase with
    | idle => exact absurd phase started
    | returned => exact absurd phase pending
    | failed => exact absurd phase going
    | connecting => rfl
    | subscribing => rfl
    | adopting => rfl
    | resuming => rfl
  · exact .scheduleRefresh keeps (Nat.le_refl _) asked

theorem Pursued.settleStart (pursued : o.Pursued owner before) {starting rejected : Bool}
    (heard : starting = true → rejected = true → o.refreshDuringPrime = false) :
    (o.settleStart starting rejected).Pursued owner before := by
  cases starting with
  | false => exact pursued
  | true =>
    refine ⟨pursued.later, ?_, pursued.asked⟩
    rcases pursued.flagged with answered | ⟨priming, taken, -⟩ | queued
    · exact .inl answered
    · cases rejected with
      | false => exact .inr (.inl ⟨priming, taken, rfl⟩)
      | true =>
        rw [heard rfl rfl] at taken
        cases taken
    · exact .inr (.inr queued)

theorem Pursued.settleRefresh (pursued : o.Pursued owner before) (wired : o.Wired)
    (keeps : o.Keeps owner) {refresh : Refresh} (mem : refresh ∈ o.refreshes)
    {reply : Option DecodedManagedObjects} {throws rethrows : Bool}
    (heard : o.Heard (.treeReply refresh.id reply throws rethrows)) :
    (o.settleRefresh refresh reply throws rethrows).Pursued owner before := by
  obtain ⟨store, rejected, -, only, settled⟩ :=
    settleRefresh_cases wired.valid refresh reply throws rethrows
  rw [settled]
  have asked : ∀ r ∈ o.refreshes.erase refresh, before ≤ r.id → r.epochOwner = owner :=
    fun r mem => pursued.asked r (List.mem_of_mem_erase mem)
  have finished := finishRefresh_cases { o.without refresh with store }
  generalize finishRefresh _ = o' at finished
  cases finished with
  | done none =>
    apply Pursued.settleStart
    · refine ⟨pursued.later, ?_, asked⟩
      rcases pursued.flagged with answered | primed | ⟨queued, -⟩
      · exact .inl answered
      · exact .inr (.inl primed)
      · rcases none with idle | stopped
        · cases queued.symm.trans idle
        · cases keeps.live.symm.trans stopped
    · intro starting failed
      exact heard.1 ⟨only failed, refresh, mem, rfl, starting⟩
  | dropped gone => cases keeps.tracked.symm.trans gone
  | requested other tracked =>
    obtain rfl := Option.some.inj (keeps.tracked.symm.trans tracked)
    apply Pursued.settleStart
    · apply Pursued.runRefresh
      · exact pursued.later
      · exact asked
    · intro starting failed
      exact heard.1 ⟨only failed, refresh, mem, rfl, starting⟩

theorem Pursued.onNameOwnerChanged (pursued : o.Pursued owner before) (keeps : o.Keeps owner)
    {signal : SignalEvent} {throws : Bool}
    (still : (o.onNameOwnerChanged signal throws).Keeps owner) :
    (o.onNameOwnerChanged signal throws).Pursued owner before := by
  have tracked := still.tracked
  unfold Observer.onNameOwnerChanged at tracked ⊢
  split at tracked
  next => exact pursued
  next =>
    rw [handleSourceGone_currentOwner] at tracked
    cases tracked
  next other routed =>
    simp only at tracked ⊢
    split_ifs at tracked ⊢ with same threw
    · exact pursued
    · rw [markUnavailable_fst]
      exact { pursued with }
    · rw [scheduleRefresh_currentOwner] at tracked
      exact absurd (keeps.tracked.trans tracked.symm) same

theorem Pursued.onObjectSignal (pursued : o.Pursued owner before) (keeps : o.Keeps owner)
    (signal : SignalEvent) : (o.onObjectSignal signal).Pursued owner before := by
  unfold Observer.onObjectSignal
  split_ifs with foreign priming
  · exact pursued
  · refine ⟨pursued.later, ?_, pursued.asked⟩
    rcases pursued.flagged with answered | ⟨_, _, going⟩ | queued
    · exact .inl answered
    · exact .inr (.inl ⟨priming, rfl, going⟩)
    · exact .inr (.inr queued)
  · exact .scheduleRefresh keeps pursued.later pursued.asked

theorem Pursued.startSubscribed (pursued : o.Pursued owner before) {listener : Nat} {ok : Bool}
    (heard : ok = false → o.refreshDuringPrime = false) :
    (o.startSubscribed listener ok).Pursued owner before := by
  unfold Observer.startSubscribed
  split_ifs with failed <;> refine ⟨pursued.later, ?_, pursued.asked⟩ <;>
    rcases pursued.flagged with answered | ⟨priming, taken, going⟩ | queued
  · exact .inl answered
  · rw [heard failed] at taken
    cases taken
  · exact .inr (.inr queued)
  · exact .inl answered
  · exact .inr (.inl ⟨priming, taken, rfl⟩)
  · exact .inr (.inr queued)
  · exact .inl answered
  · exact .inr (.inl ⟨priming, taken, rfl⟩)
  · exact .inr (.inr queued)

theorem Pursued.step (pursued : o.Pursued owner before) (wired : o.Wired)
    (keeps : o.Keeps owner) (heard : o.Heard event) (isNext : o.step event = some o')
    (still : o'.Keeps owner) : o'.Pursued owner before := by
  cases event with
  | start =>
    obtain rfl := Option.some.inj isNext
    unfold Observer.start
    split_ifs
    · exact pursued
    · refine ⟨pursued.later, ?_, pursued.asked⟩
      rcases pursued.flagged with answered | ⟨_, taken, _⟩ | queued
      · exact .inl answered
      · exact .inr (.inl ⟨rfl, taken, rfl⟩)
      · exact .inr (.inr queued)
  | connected ok =>
    obtain rfl := eq_of_guarded isNext
    cases ok with
    | false =>
      refine ⟨pursued.later, ?_, pursued.asked⟩
      rcases pursued.flagged with answered | ⟨_, taken, _⟩ | queued
      · exact .inl answered
      · rw [heard.1 rfl] at taken
        cases taken
      · exact .inr (.inr queued)
    | true =>
      refine ⟨pursued.later, ?_, pursued.asked⟩
      rcases pursued.flagged with answered | ⟨priming, taken, _⟩ | queued
      · exact .inl answered
      · exact .inr (.inl ⟨priming, taken, rfl⟩)
      · exact .inr (.inr queued)
  | subscribed =>
    obtain ⟨listener, rfl⟩ := step_subscribed isNext
    exact pursued.startSubscribed heard.1
  | adopted =>
    obtain rfl := eq_of_guarded isNext
    unfold Observer.startAdopted
    simp only
    split_ifs with taken
    · apply Pursued.scheduleRefresh
      · exact ⟨keeps.tracked, keeps.live⟩
      · exact pursued.later
      · exact pursued.asked
    · refine ⟨pursued.later, ?_, pursued.asked⟩
      rcases pursued.flagged with answered | ⟨_, taken', _⟩ | queued
      · exact .inl answered
      · exact absurd taken' taken
      · exact .inr (.inr queued)
  | stop =>
    obtain rfl := Option.some.inj isNext
    have live := still.live
    rw [Observer.stop, if_neg (by rw [keeps.live]; decide)] at live
    cases live
  | objectSignal listener signal =>
    obtain rfl := eq_of_guarded isNext
    exact pursued.onObjectSignal keeps signal
  | nameOwnerChanged =>
    obtain rfl := eq_of_guarded isNext
    exact pursued.onNameOwnerChanged keeps still
  | disconnected =>
    obtain rfl := eq_of_guarded isNext
    have tracked := still.tracked
    rw [handleSourceGone_currentOwner] at tracked
    cases tracked
  | reconnected =>
    obtain rfl := eq_of_guarded isNext
    exact { pursued with }
  | ownerReply =>
    obtain ⟨adoption, -, -, rfl⟩ := step_ownerReply isNext
    have tracked := still.tracked
    unfold settleAdoption at tracked ⊢
    split at tracked
    next =>
      rw [settleStart_currentOwner, handleSourceGone_currentOwner] at tracked
      cases tracked
    next other named =>
      obtain rfl := Option.some.inj tracked
      apply Pursued.runRefresh
      · exact pursued.later
      · exact pursued.asked
  | treeReply =>
    obtain ⟨refresh, mem, rfl, rfl⟩ := step_treeReply isNext
    exact pursued.settleRefresh wired keeps mem heard

/-- Every step is heard, and taken while the owner is tracked. -/
def HeardUnder (owner : Owner) (o : Observer) (event : Event) : Prop :=
  o.Heard event ∧ o.Keeps owner

theorem Pursued.runs (pursued : o.Pursued owner before) (wired : o.Wired)
    (runs : Runs (HeardUnder owner) o o') (still : o'.Keeps owner) : o'.Pursued owner before := by
  induction runs with
  | refl => exact pursued
  | step event runs kind isNext ih =>
    exact (ih kind.2).step (runs.wired wired) kind.2 kind.1 isNext still

instance (owner : Owner) (o : Observer) : Decidable (o.Keeps owner) :=
  decidable_of_iff (o.currentOwner = some owner ∧ o.stopped = false)
    ⟨fun both => ⟨both.1, both.2⟩, fun keeps => ⟨keeps.tracked, keeps.live⟩⟩

instance (owner : Owner) (o : Observer) (event : Event) : Decidable (HeardUnder owner o event) :=
  inferInstanceAs (Decidable (_ ∧ _))

/-- The tree is reconciled; the rows are marked again when reconciling rejects it or a
listener throws. -/
def Reconciles (o : Observer) (tree : DecodedManagedObjects) (throws : Bool) (next : Observer) :
    Prop :=
  next.store = (o.store.reconcile tree).1.markHealthy.1 ∨
    ((∃ error, (o.store.reconcile tree).2 = .error error) ∨ throws = true) ∧
      ∃ store : ObservationRowStore, store.rows = (o.store.reconcile tree).1.rows ∧
        next.store = (store.markUnavailable .busError).1

/-- A tree that was asked for under the tracked owner is reconciled. -/
theorem reconciles_of_keeps (wired : o.Wired) (keeps : o.Keeps owner) {refresh : Refresh}
    (asked : refresh.epochOwner = owner) (tree : DecodedManagedObjects) (throws rethrows : Bool) :
    o.Reconciles tree throws (o.settleRefresh refresh (some tree) throws rethrows) := by
  have pendingValid : (o.without refresh).ValidRows := wired.valid
  have taken := tryRefresh_cases pendingValid refresh.epochOwner tree throws rethrows
  unfold Reconciles settleRefresh
  simp only [settleStart_store, finishRefresh_store]
  generalize tryRefresh _ _ _ _ _ = outcome at taken
  cases taken with
  | discarded superseded =>
    rcases superseded with moved | stopped
    · exact absurd (asked ▸ keeps.tracked) moved
    · cases keeps.live.symm.trans stopped
  | reconciled => exact .inl rfl
  | interrupted tracked live store rows cause rejected only => exact .inr ⟨cause, store, rows, rfl⟩

/-- A signal from the tracked owner is accepted; then, as long as that owner is tracked and
the observer is not stopped, a tree is asked for by the time nothing is in flight, and every
tree asked for since is reconciled when it comes. -/
theorem signal_answered {first after last : Observer} {listener : Nat} {signal : SignalEvent}
    (run : Runs Heard init first) (heard : first.Heard (.objectSignal listener signal))
    (keeps : first.Keeps owner) (accepted : isCurrentOwnerSignal signal (some owner) = true)
    (arrives : first.step (.objectSignal listener signal) = some after)
    (rest : Runs (HeardUnder owner) after last) (still : last.Keeps owner) :
    (last.Quiescent → first.requested < last.requested) ∧
      ∀ id tree throws rethrows next, first.requested ≤ id →
        last.step (.treeReply id (some tree) throws rethrows) = some next →
          last.Reconciles tree throws next := by
  have wired := run.wired wired_init
  have wiredLast := rest.wired (wired.step arrives)
  have starts : after.Pursued owner first.requested := by
    obtain ⟨-, isNext⟩ := Option.ite_none_right_eq_some.mp arrives
    obtain rfl := Option.some.inj isNext
    exact .arrival wired keeps accepted (heard.2 (by rw [Accepts, keeps.tracked]; exact accepted))
  have pursued := starts.runs (wired.step arrives) rest still
  constructor
  · intro quiet
    rcases pursued.flagged with answered | ⟨_, _, going⟩ | ⟨_, busy⟩
    · exact answered
    · cases quiet.phase.symm.trans going
    · exact absurd quiet.refreshes (wiredLast.refreshing busy)
  · intro id tree throws rethrows next since isNext
    obtain ⟨refresh, mem, rfl, rfl⟩ := step_treeReply isNext
    exact reconciles_of_keeps wiredLast still (pursued.asked refresh mem since) tree throws rethrows

/-- The owner appears while `start` waits for its name. -/
def appeared : Observer := reach Heard init (starting ++ [.nameOwnerChanged ownerSignal false])

/-- It signals a change. -/
def signalled : Observer := reach Heard appeared [.objectSignal 0 objectSignal]

/-- Both requests made so far are answered, `start` returns, and the third is answered. -/
def settled : Observer := reach (HeardUnder someOwner) signalled
  [.ownerReply 0 (some [.string someOwner]) false, .treeReply 0 (some []) false false,
    .treeReply 1 (some []) false false, .adopted, .treeReply 2 (some []) false false]

/-- A change that is signalled while the observer starts is asked for once it has. -/
theorem signal_answered_priming :
    appeared.priming = true ∧ settled.Quiescent ∧ appeared.requested < settled.requested := by
  have run : Runs Heard init appeared := runs_reach (by decide)
  have heard : appeared.Heard (.objectSignal 0 objectSignal) := by decide
  have keeps : appeared.Keeps someOwner := by decide
  have arrives : appeared.step (.objectSignal 0 objectSignal) = some signalled := rfl
  have rest : Runs (HeardUnder someOwner) signalled settled := runs_reach (by decide)
  have still : settled.Keeps someOwner := by decide
  have quiet : settled.Quiescent := by decide
  exact ⟨by decide, quiet, (signal_answered run heard keeps rfl arrives rest still).1 quiet⟩

/-- A subscription of `start` fails; after a reconnect the owner is tracked all the same. -/
def startedPartway : Observer := reach (fun _ _ => True) init
  [.start, .connected true, .subscribed false, .reconnected,
    .ownerReply 0 (some [.string someOwner]) false, .treeReply 0 (some []) false false]

/-- An observer whose start has failed accepts a signal and never asks for a tree. -/
theorem signal_answered_fails : ∃ after,
    Runs (fun _ _ => True) init startedPartway ∧ startedPartway.Keeps someOwner ∧
      isCurrentOwnerSignal objectSignal (some someOwner) = true ∧
      startedPartway.step (.objectSignal 0 objectSignal) = some after ∧
      after.Keeps someOwner ∧ after.Quiescent ∧
      after.requested = startedPartway.requested := by
  have run : Runs (fun _ _ => True) init startedPartway := runs_reach (by decide)
  exact ⟨reach (fun _ _ => True) startedPartway [.objectSignal 0 objectSignal], run,
    by decide, by decide, rfl, by decide, by decide,
    by decide⟩

end ModemStack.Backend.Observer
