import ModemStack.Backend.Observer

/-!
Laws of the observer's handlers: one inversion lemma for each, and the meaning of the
flags in every run.
-/

namespace ModemStack.Backend.Observer

open ModemStack.Text

/-! ### What the handlers do -/

variable {o o' : Observer} {event : Event}

/-- All rows are valid, so marking them never throws. -/
def ValidRows (o : Observer) : Prop := ∀ row ∈ o.store.rows.values, row.snapshot.Valid

inductive Scheduled (o : Observer) : Observer → Prop
  | ignored (gone : o.currentOwner = none ∨ o.stopped = true) : Scheduled o o
  | queued (busy : o.refreshing = true) : Scheduled o { o with refreshQueued := true }
  | requested (owner : Owner) (tracked : o.currentOwner = some owner)
      (idle : o.refreshing = false) : Scheduled o (o.runRefresh owner false)

theorem scheduleRefresh_cases (o : Observer) : Scheduled o o.scheduleRefresh := by
  unfold scheduleRefresh
  split
  next tracked => exact .ignored (.inl tracked)
  next owner tracked =>
    split_ifs with stopped busy
    · exact .ignored (.inr stopped)
    · exact .queued busy
    · exact .requested owner tracked (Bool.eq_false_iff.mpr busy)

/-- Only the store changes. -/
theorem markUnavailable_fst (throws : Bool) (reason : ObservationFailureReason) :
    (o.markUnavailable throws reason).1 = { o with store := (o.store.markUnavailable reason).1 } := by
  unfold markUnavailable
  split <;> next same => rw [same]

theorem markUnavailable_throws {throws : Bool} {reason : ObservationFailureReason}
    (valid : o.ValidRows) (threw : (o.markUnavailable throws reason).2 = true) : throws = true := by
  obtain ⟨changed, ends⟩ := ObservationRowStore.markUnavailable_ok reason valid
  unfold markUnavailable at threw
  split at threw
  next same =>
    rw [same] at ends
    cases ends
  next => exact (Bool.and_eq_true_iff.mp threw).2

inductive Caught (o : Observer) (epochOwner : Owner) (throws : Bool) : Observer × Bool → Prop
  | late (superseded : o.Superseded epochOwner) :
      Caught o epochOwner throws (o, false)
  | marked (tracked : o.currentOwner = some epochOwner) (rejected : Bool)
      (only : rejected = true → throws = true) :
      Caught o epochOwner throws
        ({ o with store := (o.store.markUnavailable .busError).1 }, rejected)

theorem catchRefresh_cases (valid : o.ValidRows) (epochOwner : Owner) (throws : Bool) :
    Caught o epochOwner throws (o.catchRefresh epochOwner throws) := by
  unfold catchRefresh
  split_ifs with guard
  · have marked := Caught.marked guard.1 (o.markUnavailable throws .busError).2
      (markUnavailable_throws valid)
    rwa [← markUnavailable_fst throws] at marked
  · refine .late ?_
    by_cases tracked : o.currentOwner = some epochOwner
    · exact .inr (by simpa [tracked] using guard)
    · exact .inl tracked

/-- A tree from a superseded epoch is discarded; one that is taken is reconciled. -/
inductive Taken (o : Observer) (epochOwner : Owner) (tree : DecodedManagedObjects)
    (throws rethrows : Bool) : Observer × Bool → Prop
  | discarded (superseded : o.Superseded epochOwner) :
      Taken o epochOwner tree throws rethrows (o, false)
  | reconciled (tracked : o.currentOwner = some epochOwner) (live : o.stopped = false) :
      Taken o epochOwner tree throws rethrows
        ({ o with store := (o.store.reconcile tree).1.markHealthy.1 }, false)
  | interrupted (tracked : o.currentOwner = some epochOwner) (live : o.stopped = false)
      (store : ObservationRowStore)
      (rows : store.rows = (o.store.reconcile tree).1.rows)
      (cause : (∃ error, (o.store.reconcile tree).2 = .error error) ∨ throws = true)
      (rejected : Bool) (only : rejected = true → rethrows = true) :
      Taken o epochOwner tree throws rethrows
        ({ o with store := (store.markUnavailable .busError).1 }, rejected)

theorem Caught.taken {epochOwner : Owner} {tree : DecodedManagedObjects} {throws rethrows : Bool}
    {store : ObservationRowStore} {outcome : Observer × Bool}
    (caught : Caught { o with store } epochOwner rethrows outcome)
    (tracked : o.currentOwner = some epochOwner) (live : o.stopped = false)
    (rows : store.rows = (o.store.reconcile tree).1.rows)
    (cause : (∃ error, (o.store.reconcile tree).2 = .error error) ∨ throws = true) :
    Taken o epochOwner tree throws rethrows outcome := by
  cases caught with
  | late superseded =>
    rcases superseded with moved | stopped
    · exact absurd tracked moved
    · exact absurd live (by rw [stopped]; decide)
  | marked _ rejected only => exact .interrupted tracked live store rows cause rejected only

theorem tryRefresh_cases (valid : o.ValidRows) (epochOwner : Owner) (tree : DecodedManagedObjects)
    (throws rethrows : Bool) :
    Taken o epochOwner tree throws rethrows (o.tryRefresh epochOwner tree throws rethrows) := by
  have still := ObservationRowStore.reconcile_valid tree valid
  unfold tryRefresh
  split_ifs with superseded
  · exact .discarded superseded
  obtain ⟨tracked, live⟩ := not_or.mp superseded
  rw [not_not] at tracked
  rw [Bool.not_eq_true] at live
  split
  next store error ends =>
    have same : (o.store.reconcile tree).1 = store := by rw [ends]
    have stored : ValidRows { o with store } := same ▸ still
    have caught := catchRefresh_cases stored epochOwner rethrows
    exact caught.taken tracked live (by rw [same]) (.inl ⟨error, by rw [ends]⟩)
  next store rowsChanged ends =>
    have same : (o.store.reconcile tree).1 = store := by rw [ends]
    have stored : ValidRows { o with store := store.markHealthy.1 } := same ▸ still
    change Taken o epochOwner tree throws rethrows
      (if ((rowsChanged || store.markHealthy.2) && throws) = true then
        { o with store := store.markHealthy.1 }.catchRefresh epochOwner rethrows
      else ({ o with store := store.markHealthy.1 }, false))
    split_ifs with emits
    · have caught := catchRefresh_cases stored epochOwner rethrows
      exact caught.taken tracked live (by rw [same]; rfl) (.inr (Bool.and_eq_true_iff.mp emits).2)
    · subst same
      exact .reconciled tracked live

/-- A refresh that ends takes the queued one up, under the owner of that moment. -/
inductive Finished (o : Observer) : Observer → Prop
  | done (none : o.refreshQueued = false ∨ o.stopped = true) :
      Finished o { o with refreshing := false }
  | dropped (gone : o.currentOwner = none) :
      Finished o { o with refreshing := false, refreshQueued := false }
  | requested (owner : Owner) (tracked : o.currentOwner = some owner) :
      Finished o ({ o with refreshing := false, refreshQueued := false }.runRefresh owner false)

theorem finishRefresh_cases (o : Observer) : Finished o o.finishRefresh := by
  unfold finishRefresh
  simp only
  split_ifs with more
  · obtain ⟨-, live⟩ := Bool.and_eq_true_iff.mp more
    have scheduled := scheduleRefresh_cases { o with refreshing := false, refreshQueued := false }
    generalize scheduleRefresh _ = o' at scheduled
    cases scheduled with
    | ignored gone =>
      rcases gone with gone | stopped
      · exact .dropped gone
      · rw [show o.stopped = true from stopped] at live
        cases live
    | queued busy => cases busy
    | requested owner tracked idle => exact .requested owner tracked
  · refine .done ?_
    cases queued : o.refreshQueued with
    | false => exact .inl rfl
    | true => exact .inr (by simpa [queued] using more)

/-- Between the reply and the `finally`, only the store changes. -/
theorem settleRefresh_cases (valid : o.ValidRows) (refresh : Refresh)
    (reply : Option DecodedManagedObjects) (throws rethrows : Bool) :
    ∃ store rejected, ValidRows { o with store } ∧ (rejected = true → rethrows = true) ∧
      o.settleRefresh refresh reply throws rethrows =
        ({ o.without refresh with store }.finishRefresh).settleStart refresh.starting rejected := by
  have pendingValid : (o.without refresh).ValidRows := valid
  unfold settleRefresh
  cases reply with
  | none =>
    have caught := catchRefresh_cases pendingValid refresh.epochOwner rethrows
    simp only
    generalize catchRefresh _ _ _ = outcome at caught
    cases caught with
    | late => exact ⟨o.store, false, valid, by rintro ⟨⟩, rfl⟩
    | marked tracked rejected only =>
      refine ⟨(o.store.markUnavailable .busError).1, rejected, ?_, only, rfl⟩
      exact ObservationRowStore.markUnavailable_valid .busError valid
  | some tree =>
    have taken := tryRefresh_cases pendingValid refresh.epochOwner tree throws rethrows
    have still := ObservationRowStore.reconcile_valid tree valid
    simp only
    generalize tryRefresh _ _ _ _ _ = outcome at taken
    cases taken with
    | discarded => exact ⟨o.store, false, valid, by rintro ⟨⟩, rfl⟩
    | reconciled =>
      exact ⟨(o.store.reconcile tree).1.markHealthy.1, false, still, by rintro ⟨⟩, rfl⟩
    | interrupted tracked live store rows cause rejected only =>
      refine ⟨(store.markUnavailable .busError).1, rejected, ?_, only, rfl⟩
      exact ObservationRowStore.markUnavailable_valid .busError (by rw [rows]; exact still)

theorem step_treeReply {id : Nat} {reply : Option DecodedManagedObjects}
    {throws rethrows : Bool} (isNext : o.step (.treeReply id reply throws rethrows) = some o') :
    ∃ refresh ∈ o.refreshes, refresh.id = id ∧
      o' = o.settleRefresh refresh reply throws rethrows := by
  obtain ⟨refresh, found, settled⟩ := Option.map_eq_some_iff.mp isNext
  have isId := List.find?_some found
  exact ⟨refresh, List.mem_of_find?_eq_some found, by simpa using isId, settled.symm⟩

/-- What a guard lets through. -/
theorem eq_of_guarded {guard : Prop} {_ : Decidable guard} {taken : Observer}
    (isNext : (if guard then some taken else none) = some o') : taken = o' :=
  Option.some.inj (Option.ite_none_right_eq_some.mp isNext).2

theorem step_subscribed {ok : Bool} (isNext : o.step (.subscribed ok) = some o') :
    ∃ listener, o' = o.startSubscribed listener ok := by
  simp only [Observer.step] at isNext
  split at isNext
  next listener _ => exact ⟨listener, (Option.some.inj isNext).symm⟩
  next => cases isNext

theorem step_ownerReply {id : Nat} {reply : Option (List DbusValue)}
    {throws : Bool} (isNext : o.step (.ownerReply id reply throws) = some o') :
    ∃ adoption ∈ o.adoptions, adoption.id = id ∧ o' = o.settleAdoption adoption reply throws := by
  obtain ⟨adoption, found, settled⟩ := Option.map_eq_some_iff.mp isNext
  have isId := List.find?_some found
  exact ⟨adoption, List.mem_of_find?_eq_some found, by simpa using isId, settled.symm⟩

/-! ### What the handlers leave alone -/

theorem scheduleRefresh_currentOwner (o : Observer) :
    o.scheduleRefresh.currentOwner = o.currentOwner := by
  have scheduled := scheduleRefresh_cases o
  generalize o.scheduleRefresh = o' at scheduled
  cases scheduled <;> rfl

theorem handleSourceGone_currentOwner (o : Observer) (throws : Bool) :
    (o.handleSourceGone throws).1.currentOwner = none := by
  rw [handleSourceGone, markUnavailable_fst]

theorem settleStart_currentOwner (o : Observer) (starting rejected : Bool) :
    (o.settleStart starting rejected).currentOwner = o.currentOwner := by
  cases starting <;> rfl

theorem scheduleRefresh_store (o : Observer) : o.scheduleRefresh.store = o.store := by
  have scheduled := scheduleRefresh_cases o
  generalize o.scheduleRefresh = o' at scheduled
  cases scheduled <;> rfl

theorem finishRefresh_currentOwner (o : Observer) :
    o.finishRefresh.currentOwner = o.currentOwner := by
  have finished := finishRefresh_cases o
  generalize o.finishRefresh = o' at finished
  cases finished <;> rfl

theorem finishRefresh_store (o : Observer) : o.finishRefresh.store = o.store := by
  have finished := finishRefresh_cases o
  generalize o.finishRefresh = o' at finished
  cases finished <;> rfl

theorem settleStart_store (o : Observer) (starting rejected : Bool) :
    (o.settleStart starting rejected).store = o.store := by
  cases starting <;> rfl

/-! ### The flags -/

/-- The flags mean what they say. -/
structure Wired (o : Observer) : Prop where
  valid : o.ValidRows
  priming : o.priming = true → o.phase ≠ .idle ∧ o.phase ≠ .returned
  refreshing : o.refreshing = true → o.refreshes ≠ []
  queued : o.refreshQueued = true → o.stopped = false → o.refreshing = true
  ids : ∀ r ∈ o.refreshes, r.id < o.requested

theorem wired_init : init.Wired where
  valid := by rintro row ⟨⟩
  priming := by rintro ⟨⟩
  refreshing := by rintro ⟨⟩
  queued := by rintro ⟨⟩
  ids := by rintro r ⟨⟩

theorem mem_runRefresh {owner : Owner} {starting : Bool} {r : Refresh}
    (mem : r ∈ (o.runRefresh owner starting).refreshes) :
    r ∈ o.refreshes ∨ r = ⟨o.requested, owner, starting⟩ := by
  simpa [runRefresh] using mem

theorem Wired.runRefresh (wired : o.Wired) (owner : Owner) (starting : Bool) :
    (o.runRefresh owner starting).Wired where
  valid := wired.valid
  priming := wired.priming
  refreshing _ := by simp [Observer.runRefresh]
  queued _ _ := rfl
  ids := by
    intro r mem
    rcases mem_runRefresh mem with old | rfl
    · exact Nat.lt_succ_of_lt (wired.ids r old)
    · exact Nat.lt_succ_self _

theorem Wired.scheduleRefresh (wired : o.Wired) : o.scheduleRefresh.Wired := by
  have scheduled := scheduleRefresh_cases o
  generalize o.scheduleRefresh = o' at scheduled
  cases scheduled with
  | ignored => exact wired
  | queued busy => exact { wired with queued := fun _ _ => busy }
  | requested owner tracked idle => exact wired.runRefresh owner false

theorem Wired.handleSourceGone (wired : o.Wired) (throws : Bool) :
    (o.handleSourceGone throws).1.Wired := by
  rw [Observer.handleSourceGone, markUnavailable_fst]
  exact { wired with
    valid := ObservationRowStore.markUnavailable_valid .sourceUnavailable wired.valid }

/-- A refresh that ends leaves the flags in order, whatever they were. -/
theorem finishRefresh_wired (valid : o.ValidRows)
    (priming : o.priming = true → o.phase ≠ .idle ∧ o.phase ≠ .returned)
    (ids : ∀ r ∈ o.refreshes, r.id < o.requested) : o.finishRefresh.Wired := by
  have finished := finishRefresh_cases o
  generalize o.finishRefresh = o' at finished
  cases finished with
  | done none =>
    refine ⟨valid, priming, by rintro ⟨⟩, ?_, ids⟩
    intro queued live
    rcases none with idle | stopped
    · cases queued.symm.trans idle
    · cases live.symm.trans stopped
  | dropped => exact ⟨valid, priming, by rintro ⟨⟩, by rintro ⟨⟩, ids⟩
  | requested =>
    apply Wired.runRefresh
    exact ⟨valid, priming, by rintro ⟨⟩, by rintro ⟨⟩, ids⟩

theorem Wired.settleStart (wired : o.Wired) (starting rejected : Bool) :
    (o.settleStart starting rejected).Wired := by
  cases starting with
  | false => exact wired
  | true =>
    cases rejected <;>
      exact { wired with priming := fun _ => ⟨by rintro ⟨⟩, by rintro ⟨⟩⟩ }

theorem Wired.settleRefresh (wired : o.Wired) (refresh : Refresh)
    (reply : Option DecodedManagedObjects) (throws rethrows : Bool) :
    (o.settleRefresh refresh reply throws rethrows).Wired := by
  obtain ⟨store, rejected, valid, -, settled⟩ :=
    settleRefresh_cases wired.valid refresh reply throws rethrows
  rw [settled]
  apply Wired.settleStart
  refine finishRefresh_wired valid wired.priming ?_
  intro r mem
  exact wired.ids r (List.mem_of_mem_erase mem)

theorem Wired.onNameOwnerChanged (wired : o.Wired) (signal : SignalEvent) (throws : Bool) :
    (o.onNameOwnerChanged signal throws).Wired := by
  unfold Observer.onNameOwnerChanged
  split
  next => exact wired
  next => exact wired.handleSourceGone throws
  next owner =>
    have marked : (o.markUnavailable throws .sourceUnavailable).1.Wired := by
      rw [markUnavailable_fst]
      exact { wired with
        valid := ObservationRowStore.markUnavailable_valid .sourceUnavailable wired.valid }
    simp only
    split_ifs
    · exact wired
    · exact marked
    · apply Wired.scheduleRefresh
      exact { marked with }

theorem Wired.onObjectSignal (wired : o.Wired) (signal : SignalEvent) :
    (o.onObjectSignal signal).Wired := by
  unfold Observer.onObjectSignal
  split_ifs
  · exact wired
  · exact { wired with }
  · exact wired.scheduleRefresh

theorem Wired.startSubscribed (wired : o.Wired) (listener : Nat) (ok : Bool) :
    (o.startSubscribed listener ok).Wired := by
  unfold Observer.startSubscribed
  split_ifs
  · exact { wired with priming := fun _ => ⟨by rintro ⟨⟩, by rintro ⟨⟩⟩ }
  · exact { wired with priming := fun _ => ⟨by rintro ⟨⟩, by rintro ⟨⟩⟩ }
  · exact { wired with priming := fun _ => ⟨by rintro ⟨⟩, by rintro ⟨⟩⟩ }

theorem Wired.startAdopted (wired : o.Wired) : o.startAdopted.Wired := by
  unfold Observer.startAdopted
  simp only
  split_ifs
  · apply Wired.scheduleRefresh
    exact { wired with priming := by rintro ⟨⟩ }
  · exact { wired with priming := by rintro ⟨⟩ }

theorem Wired.settleAdoption (wired : o.Wired) (adoption : Adoption)
    (reply : Option (List DbusValue)) (throws : Bool) :
    (o.settleAdoption adoption reply throws).Wired := by
  have pending : Wired { o with adoptions := o.adoptions.erase adoption } := { wired with }
  unfold Observer.settleAdoption
  split
  next => exact (pending.handleSourceGone throws).settleStart _ _
  next owner =>
    apply Wired.runRefresh
    exact { pending with }

theorem Wired.step (wired : o.Wired) (isNext : o.step event = some o') : o'.Wired := by
  cases event with
  | start =>
    obtain rfl := Option.some.inj isNext
    unfold Observer.start
    split_ifs
    · exact wired
    · exact { wired with priming := fun _ => ⟨by rintro ⟨⟩, by rintro ⟨⟩⟩ }
  | connected ok =>
    obtain rfl := eq_of_guarded isNext
    cases ok <;> exact { wired with priming := fun _ => ⟨by rintro ⟨⟩, by rintro ⟨⟩⟩ }
  | subscribed ok =>
    obtain ⟨listener, rfl⟩ := step_subscribed isNext
    exact wired.startSubscribed listener ok
  | adopted =>
    obtain rfl := eq_of_guarded isNext
    exact wired.startAdopted
  | stop =>
    obtain rfl := Option.some.inj isNext
    unfold Observer.stop
    split_ifs
    · exact wired
    · exact { wired with queued := by rintro _ ⟨⟩ }
    · exact { wired with queued := by rintro _ ⟨⟩ }
  | objectSignal listener signal =>
    obtain rfl := eq_of_guarded isNext
    exact wired.onObjectSignal signal
  | nameOwnerChanged signal throws =>
    obtain rfl := eq_of_guarded isNext
    exact wired.onNameOwnerChanged signal throws
  | disconnected throws =>
    obtain rfl := eq_of_guarded isNext
    exact wired.handleSourceGone throws
  | reconnected =>
    obtain rfl := eq_of_guarded isNext
    exact { wired with }
  | ownerReply id reply throws =>
    obtain ⟨adoption, -, -, rfl⟩ := step_ownerReply isNext
    exact wired.settleAdoption adoption reply throws
  | treeReply id reply throws rethrows =>
    obtain ⟨refresh, -, -, rfl⟩ := step_treeReply isNext
    exact wired.settleRefresh refresh reply throws rethrows

theorem Runs.wired {allowed : Observer → Event → Prop} (wired : o.Wired)
    (runs : Runs allowed o o') : o'.Wired := by
  induction runs with
  | refl => exact wired
  | step event _ _ isNext ih => exact ih.step isNext

/-! ### Starting -/

def someOwner : Owner := js ":1.7"

def ownerSignal : SignalEvent :=
  ⟨some (js "org.freedesktop.DBus"), [.string mmBusName, .string [], .string someOwner]⟩

def objectSignal : SignalEvent := ⟨some someOwner, []⟩

/-- `start` up to its query for the owner. -/
def starting : List Event :=
  [.start, .connected true, .subscribed true, .subscribed true, .subscribed true,
    .subscribed true]

end ModemStack.Backend.Observer
