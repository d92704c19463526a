import ModemStack.Backend.Signals

/-!
The observer's listeners: who receives an emission, and what a listener that throws does.

An emission calls the listeners in their order, and one that throws ends it. Emissions of a
lost source come last in what the observer does, so that a throw of the last listener is
harmless there. In all other places a throw takes another way through the observer, and a
start that rejects, for this or any other reason, is never started again
(`listeners_isolated`).
-/

namespace ModemStack.Backend

/-- What one listener function is told from another by. -/
abbrev Listener := Nat

/-- The listeners that are called, up to the first one that throws. -/
def called (throws : Listener → Bool) : List Listener → List Listener
  | [] => []
  | listener :: rest => if throws listener then [listener] else listener :: called throws rest

structure Emission where
  list : ObservationList
  listeners : List Listener
  received : List Listener

/-! ### Emissions of one step -/

namespace Observer

variable (o : Observer) (listeners : List Listener)

def emit (throws : Listener → Bool) : Emission :=
  ⟨o.store.list, listeners, called throws listeners⟩

def markEmissions (throws : Listener → Bool) (reason : ObservationFailureReason) :
    List Emission :=
  match o.store.markUnavailable reason with
  | (store, .ok true) => [{ o with store }.emit listeners throws]
  | (_, .ok false) | (_, .error _) => []

def catchEmissions (epochOwner : Owner) (throws : Listener → Bool) : List Emission :=
  if o.currentOwner = some epochOwner ∧ o.stopped = false then
    o.markEmissions listeners throws .busError
  else []

/-- A throw of a listener leads to the emission of the `catch`. -/
def tryEmissions (epochOwner : Owner) (tree : DecodedManagedObjects)
    (throws rethrows : Listener → Bool) : List Emission :=
  if o.Superseded epochOwner then []
  else match o.store.reconcile tree with
    | (store, .error _) => { o with store }.catchEmissions listeners epochOwner rethrows
    | (store, .ok rowsChanged) =>
      let (store', healthChanged) := store.markHealthy
      let o' := { o with store := store' }
      if rowsChanged || healthChanged then
        o'.emit listeners throws ::
          if listeners.any throws then o'.catchEmissions listeners epochOwner rethrows else []
      else []

/-- The emissions of a step, in which the listeners throw as told: `rethrows` is about the
emission of a `catch`. -/
def emissions (throws rethrows : Listener → Bool) : Event → List Emission
  | .nameOwnerChanged event _ =>
    match routeOwnerSignal event with
    | .unrelated => []
    | .lost => o.markEmissions listeners throws .sourceUnavailable
    | .owned owner =>
      if o.currentOwner = some owner then []
      else o.markEmissions listeners throws .sourceUnavailable
  | .disconnected _ => o.markEmissions listeners throws .sourceUnavailable
  | .ownerReply id reply _ =>
    match o.adoptions.find? fun adoption => adoption.id = id, queriedOwner reply with
    | some _, none => o.markEmissions listeners throws .sourceUnavailable
    | _, _ => []
  | .treeReply id reply _ _ =>
    match o.refreshes.find? fun refresh => refresh.id = id with
    | none => []
    | some refresh =>
      match reply with
      | some tree => o.tryEmissions listeners refresh.epochOwner tree throws rethrows
      | none => o.catchEmissions listeners refresh.epochOwner rethrows
  | .start | .connected _ | .subscribed _ | .adopted | .stop | .objectSignal _ _
  | .reconnected => []

/-- The step in which listeners throw or not. -/
def Event.throwing (throws rethrows : Bool) : Event → Event
  | .nameOwnerChanged event _ => .nameOwnerChanged event throws
  | .disconnected _ => .disconnected throws
  | .ownerReply id reply _ => .ownerReply id reply throws
  | .treeReply id reply _ _ => .treeReply id reply throws rethrows
  | event => event

end Observer

/-! ### Observers with listeners -/

structure Broadcast where
  observer : Observer
  listeners : List Listener
  emissions : List Emission

namespace Broadcast

def init : Broadcast := ⟨.init, [], []⟩

inductive Event where
  | observe (listener : Listener)
  | unsubscribe (listener : Listener)
  /-- The unsubscriptions that `stop` awaits have settled. -/
  | cleared
  /-- A step of the observer, and which listeners throw when they are called in it. One
  that is not called does not throw. -/
  | happens (event : Observer.Event) (throws rethrows : Listener → Bool)

def step (b : Broadcast) : Event → Option Broadcast
  | .observe listener =>
    some { b with
      listeners := if listener ∈ b.listeners then b.listeners else b.listeners ++ [listener] }
  | .unsubscribe listener => some { b with listeners := b.listeners.filter (· ≠ listener) }
  | .cleared => if b.observer.stopped then some { b with listeners := [] } else none
  | .happens event throws rethrows =>
    (b.observer.step (event.throwing (b.listeners.any throws) (b.listeners.any rethrows))).map
      fun observer =>
        { b with
          observer
          emissions := b.emissions ++ b.observer.emissions b.listeners throws rethrows event }

def run : Broadcast → List Event → Option Broadcast
  | b, [] => some b
  | b, event :: events => (b.step event).bind (run · events)

/-- The event, were no listener to throw in it. -/
def Event.calm : Event → Event
  | .happens event _ _ => .happens event (fun _ => false) fun _ => false
  | event => event

/-! ### What is asked of a run -/

/-- The observer can be started again, and nothing is left of a start. -/
structure Restartable (o : Observer) : Prop where
  started : o.started = false
  handlers : o.handlers = false
  listening : o.listening = 0
  subscriptions : o.subscriptions = false

/-- Starts that reject leave nothing behind, every listener receives every emission, and
what is stored is what it would be had no listener thrown. -/
structure Unharmed (events : List Event) (b : Broadcast) : Prop where
  restartable : b.observer.phase = .failed → Restartable b.observer
  delivered : ∀ emission ∈ b.emissions, emission.received = emission.listeners
  unaffected : ∃ calm, init.run (events.map Event.calm) = some calm ∧
    calm.observer.store = b.observer.store

/-- No listener throws. -/
def Silent (listeners : List Listener) (throws : Listener → Bool) : Prop :=
  ∀ listener ∈ listeners, throws listener = false

/-- No listener throws but the last. -/
def LastAtMost (listeners : List Listener) (throws : Listener → Bool) : Prop :=
  Silent listeners.dropLast throws

instance (listeners : List Listener) (throws : Listener → Bool) :
    Decidable (Silent listeners throws) :=
  inferInstanceAs (Decidable (∀ _ ∈ _, _))

instance (listeners : List Listener) (throws : Listener → Bool) :
    Decidable (LastAtMost listeners throws) :=
  inferInstanceAs (Decidable (Silent _ _))

/-- What becomes of the owner signal: a lost source, or the announcement of an owner. -/
def ConformsToSignal (b : Broadcast) (throws : Listener → Bool) : OwnerSignal → Prop
  | .owned _ => Silent b.listeners throws
  | .lost | .unrelated => LastAtMost b.listeners throws

instance (b : Broadcast) (throws : Listener → Bool) :
    (signal : OwnerSignal) → Decidable (b.ConformsToSignal throws signal)
  | .owned _ => inferInstanceAs (Decidable (Silent _ _))
  | .lost | .unrelated => inferInstanceAs (Decidable (LastAtMost _ _))

/-- Connecting and subscribing succeed; a listener that throws is the last one, and the
emission is one of a lost source that `start` does not await. -/
def Conforms (b : Broadcast) : Event → Prop
  | .happens event throws rethrows =>
    match event with
    | .connected ok => ok = true
    | .subscribed ok => ok = true
    | .nameOwnerChanged signal _ => b.ConformsToSignal throws (routeOwnerSignal signal)
    | .disconnected _ => LastAtMost b.listeners throws
    | .ownerReply id _ _ =>
      LastAtMost b.listeners throws ∧
        ∀ adoption ∈ b.observer.adoptions, adoption.id = id → adoption.starting = true →
          Silent b.listeners throws
    | .treeReply id _ _ _ =>
      Silent b.listeners throws ∧ LastAtMost b.listeners rethrows ∧
        ∀ refresh ∈ b.observer.refreshes, refresh.id = id → refresh.starting = true →
          Silent b.listeners rethrows
    | _ => True
  | _ => True

instance (b : Broadcast) : (event : Event) → Decidable (b.Conforms event)
  | .happens (.connected _) _ _ => inferInstanceAs (Decidable (_ = _))
  | .happens (.subscribed _) _ _ => inferInstanceAs (Decidable (_ = _))
  | .happens (.nameOwnerChanged _ _) _ _ => inferInstanceAs (Decidable (b.ConformsToSignal _ _))
  | .happens (.disconnected _) _ _ => inferInstanceAs (Decidable (LastAtMost _ _))
  | .happens (.ownerReply _ _ _) _ _ => inferInstanceAs (Decidable (_ ∧ _))
  | .happens (.treeReply _ _ _ _) _ _ => inferInstanceAs (Decidable (_ ∧ _ ∧ _))
  | .happens .start _ _ | .happens .adopted _ _ | .happens .stop _ _
  | .happens (.objectSignal _ _) _ _ | .happens .reconnected _ _ => .isTrue trivial
  | .observe _ | .unsubscribe _ | .cleared => .isTrue trivial

/-- Every step of a run conforms. -/
def Conforming : Broadcast → List Event → Prop
  | _, [] => True
  | b, event :: events => b.Conforms event ∧ ∀ next ∈ b.step event, Conforming next events

instance decidableConforming : (b : Broadcast) → (events : List Event) →
    Decidable (b.Conforming events)
  | _, [] => .isTrue trivial
  | _, _ :: events =>
    have (next : Broadcast) : Decidable (Conforming next events) :=
      decidableConforming next events
    inferInstanceAs (Decidable (_ ∧ _))

/-! ### Calls that reach every listener -/

variable {throws : Listener → Bool}

theorem called_silent {listeners : List Listener} (silent : Silent listeners throws) :
    called throws listeners = listeners := by
  induction listeners with
  | nil => rfl
  | cons listener rest ih =>
    obtain ⟨first, others⟩ := List.forall_mem_cons.mp silent
    rw [called, if_neg (by rw [first]; decide), ih others]

theorem called_lastAtMost {listeners : List Listener} (last : LastAtMost listeners throws) :
    called throws listeners = listeners := by
  induction listeners with
  | nil => rfl
  | cons listener rest ih =>
    cases rest with
    | nil =>
      unfold called
      split <;> rfl
    | cons second rest =>
      have first : throws listener = false := last listener (by simp)
      have others : LastAtMost (second :: rest) throws :=
        fun other mem => last other (List.mem_cons_of_mem _ mem)
      rw [called, if_neg (by rw [first]; decide), ih others]

theorem any_silent {listeners : List Listener} (silent : Silent listeners throws) :
    listeners.any throws = false := by
  rw [List.any_eq_false]
  intro listener mem
  rw [silent listener mem]
  decide

theorem Silent.lastAtMost {listeners : List Listener} (silent : Silent listeners throws) :
    LastAtMost listeners throws :=
  fun listener mem => silent listener (List.dropLast_subset _ mem)

section Delivered

variable {o : Observer} {listeners : List Listener} {throws rethrows : Listener → Bool}

theorem markEmissions_delivered (last : LastAtMost listeners throws)
    (reason : ObservationFailureReason) :
    ∀ emission ∈ o.markEmissions listeners throws reason,
      emission.received = emission.listeners := by
  intro emission mem
  unfold Observer.markEmissions at mem
  split at mem
  · rw [List.mem_singleton.mp mem]
    exact called_lastAtMost last
  · cases mem
  · cases mem

theorem catchEmissions_delivered (last : LastAtMost listeners rethrows) (epochOwner : Owner) :
    ∀ emission ∈ o.catchEmissions listeners epochOwner rethrows,
      emission.received = emission.listeners := by
  intro emission mem
  unfold Observer.catchEmissions at mem
  split at mem
  · exact markEmissions_delivered last _ emission mem
  · cases mem

theorem tryEmissions_delivered (silent : Silent listeners throws)
    (last : LastAtMost listeners rethrows) (epochOwner : Owner) (tree : DecodedManagedObjects) :
    ∀ emission ∈ o.tryEmissions listeners epochOwner tree throws rethrows,
      emission.received = emission.listeners := by
  intro emission mem
  unfold Observer.tryEmissions at mem
  split at mem
  · cases mem
  · split at mem
    · exact catchEmissions_delivered last epochOwner emission mem
    · simp only [any_silent silent] at mem
      split at mem
      · rw [List.mem_singleton.mp mem]
        exact called_silent silent
      · cases mem

theorem step_delivered {b : Broadcast} {event : Observer.Event}
    (conforms : b.Conforms (.happens event throws rethrows)) :
    ∀ emission ∈ b.observer.emissions b.listeners throws rethrows event,
      emission.received = emission.listeners := by
  intro emission mem
  cases event with
  | nameOwnerChanged signal _ =>
    simp only [Observer.emissions] at mem
    split at mem
    next => cases mem
    next routed =>
      rw [Conforms, routed] at conforms
      exact markEmissions_delivered conforms _ emission mem
    next owner routed =>
      rw [Conforms, routed] at conforms
      split at mem
      · cases mem
      · exact markEmissions_delivered (Silent.lastAtMost conforms) _ emission mem
  | disconnected _ => exact markEmissions_delivered conforms _ emission mem
  | ownerReply id reply _ =>
    simp only [Observer.emissions] at mem
    split at mem
    · exact markEmissions_delivered conforms.1 _ emission mem
    · cases mem
  | treeReply id reply _ _ =>
    obtain ⟨silent, last, -⟩ := conforms
    simp only [Observer.emissions] at mem
    split at mem
    · cases mem
    · split at mem
      · exact tryEmissions_delivered silent last _ _ emission mem
      · exact catchEmissions_delivered last _ emission mem
  | start | connected | subscribed | adopted | stop | objectSignal | reconnected => cases mem

end Delivered

/-! ### Throws that make no difference -/

section Calm

open Observer

variable {o o' : Observer}

/-- What the throw of a listener changes is whether the marking itself throws. -/
theorem catchRefresh_fst (epochOwner : Owner) (throws : Bool) :
    (o.catchRefresh epochOwner throws).1 = (o.catchRefresh epochOwner false).1 := by
  unfold Observer.catchRefresh
  split
  · rw [markUnavailable_fst, markUnavailable_fst]
  · rfl

theorem tryRefresh_fst (epochOwner : Owner) (tree : DecodedManagedObjects)
    (throws rethrows : Bool) :
    (o.tryRefresh epochOwner tree throws rethrows).1 =
      (o.tryRefresh epochOwner tree throws false).1 := by
  unfold Observer.tryRefresh
  split
  · rfl
  · split
    · exact catchRefresh_fst _ _
    · simp only
      split
      · exact catchRefresh_fst _ _
      · rfl

/-- When nobody awaits the refresh, a throw out of its `catch` is lost. -/
theorem settleRefresh_calm {refresh : Refresh} (awaited : refresh.starting = false)
    (reply : Option DecodedManagedObjects) (throws rethrows : Bool) :
    o.settleRefresh refresh reply throws rethrows = o.settleRefresh refresh reply throws false := by
  cases reply with
  | none =>
    simp only [Observer.settleRefresh, awaited, Observer.settleStart, Bool.false_eq_true, if_false]
    rw [catchRefresh_fst]
  | some =>
    simp only [Observer.settleRefresh, awaited, Observer.settleStart, Bool.false_eq_true, if_false]
    rw [tryRefresh_fst]

theorem handleSourceGone_fst (throws : Bool) :
    (o.handleSourceGone throws).1 = (o.handleSourceGone false).1 := by
  rw [Observer.handleSourceGone, Observer.handleSourceGone, markUnavailable_fst,
    markUnavailable_fst]

theorem settleAdoption_calm {adoption : Adoption} (awaited : adoption.starting = false)
    (reply : Option (List DbusValue)) (throws : Bool) :
    o.settleAdoption adoption reply throws = o.settleAdoption adoption reply false := by
  unfold Observer.settleAdoption
  split
  · simp only [awaited, Observer.settleStart, Bool.false_eq_true, if_false]
    exact handleSourceGone_fst throws
  · rfl

/-- A step that conforms leaves the observer as if no listener had thrown in it. -/
theorem step_calm {b : Broadcast} {event : Observer.Event} {throws rethrows : Listener → Bool}
    (conforms : b.Conforms (.happens event throws rethrows)) :
    b.observer.step (event.throwing (b.listeners.any throws) (b.listeners.any rethrows)) =
      b.observer.step (event.throwing false false) := by
  cases event with
  | nameOwnerChanged signal _ =>
    have same : b.observer.onNameOwnerChanged signal (b.listeners.any throws) =
        b.observer.onNameOwnerChanged signal false := by
      cases routed : routeOwnerSignal signal with
      | unrelated => simp [Observer.onNameOwnerChanged, routed]
      | lost =>
        simp only [Observer.onNameOwnerChanged, routed]
        exact handleSourceGone_fst _
      | owned =>
        rw [Conforms, routed] at conforms
        rw [any_silent conforms]
    simp only [Observer.Event.throwing, Observer.step, same]
  | disconnected =>
    simp only [Observer.Event.throwing, Observer.step]
    rw [handleSourceGone_fst]
  | ownerReply id reply _ =>
    simp only [Observer.Event.throwing, Observer.step]
    cases found : b.observer.adoptions.find? fun adoption => adoption.id = id with
    | none => rfl
    | some adoption =>
      have mem := List.mem_of_find?_eq_some found
      have isId : adoption.id = id := by simpa using List.find?_some found
      cases awaited : adoption.starting with
      | true => rw [any_silent (conforms.2 adoption mem isId awaited)]
      | false => rw [Option.map_some, Option.map_some, settleAdoption_calm awaited]
  | treeReply id reply _ _ =>
    simp only [Observer.Event.throwing, Observer.step]
    rw [any_silent conforms.1]
    cases found : b.observer.refreshes.find? fun refresh => refresh.id = id with
    | none => rfl
    | some refresh =>
      have mem := List.mem_of_find?_eq_some found
      have isId : refresh.id = id := by simpa using List.find?_some found
      cases awaited : refresh.starting with
      | true => rw [any_silent (conforms.2.2 refresh mem isId awaited)]
      | false => rw [Option.map_some, Option.map_some, settleRefresh_calm awaited]
  | start => rfl
  | connected => rfl
  | subscribed => rfl
  | adopted => rfl
  | stop => rfl
  | objectSignal => rfl
  | reconnected => rfl

end Calm

/-! ### Starts that do not reject -/

section Starting

open Observer

variable {o o' : Observer}

/-- The one is where the other is in its start. -/
structure SameStart (o o' : Observer) : Prop where
  phase : o'.phase = o.phase
  started : o'.started = o.started

theorem scheduleRefresh_start (o : Observer) : SameStart o o.scheduleRefresh := by
  have scheduled := scheduleRefresh_cases o
  generalize o.scheduleRefresh = o' at scheduled
  cases scheduled <;> exact ⟨rfl, rfl⟩

theorem finishRefresh_start (o : Observer) : SameStart o o.finishRefresh := by
  have finished := finishRefresh_cases o
  generalize o.finishRefresh = o' at finished
  cases finished <;> exact ⟨rfl, rfl⟩

theorem markUnavailable_start (o : Observer) (throws : Bool) (reason : ObservationFailureReason) :
    SameStart o (o.markUnavailable throws reason).1 := by
  rw [markUnavailable_fst]
  exact ⟨rfl, rfl⟩

theorem handleSourceGone_start (o : Observer) (throws : Bool) :
    SameStart o (o.handleSourceGone throws).1 := by
  have marked := markUnavailable_start { o with currentOwner := none } throws .sourceUnavailable
  exact ⟨marked.phase, marked.started⟩

theorem settleStart_phase (alive : o.phase ≠ .failed) (starting : Bool) :
    (o.settleStart starting false).phase ≠ .failed := by
  cases starting with
  | true =>
    intro failed
    cases failed
  | false => exact alive

theorem onNameOwnerChanged_start (o : Observer) (signal : SignalEvent) (throws : Bool) :
    SameStart o (o.onNameOwnerChanged signal throws) := by
  unfold Observer.onNameOwnerChanged
  split
  · exact ⟨rfl, rfl⟩
  · exact handleSourceGone_start o throws
  next owner _ =>
    split
    · exact ⟨rfl, rfl⟩
    · have marked := markUnavailable_start o throws .sourceUnavailable
      simp only
      split
      · exact marked
      · have scheduled := scheduleRefresh_start
          { (o.markUnavailable throws .sourceUnavailable).1 with currentOwner := some owner }
        exact ⟨scheduled.phase.trans marked.phase, scheduled.started.trans marked.started⟩

theorem onObjectSignal_start (o : Observer) (signal : SignalEvent) :
    SameStart o (o.onObjectSignal signal) := by
  unfold Observer.onObjectSignal
  split
  · exact ⟨rfl, rfl⟩
  · split
    · exact ⟨rfl, rfl⟩
    · exact scheduleRefresh_start o

/-- No listener throws into `start`, and the calls it awaits succeed. -/
theorem step_alive {event : Observer.Event} (wired : o.Wired) (alive : o.phase ≠ .failed)
    (connects : ∀ ok, event = .connected ok → ok = true)
    (subscribes : ∀ ok, event = .subscribed ok → ok = true)
    (isNext : o.step (event.throwing false false) = some o') : o'.phase ≠ .failed := by
  cases event with
  | start =>
    obtain rfl := Option.some.inj isNext
    unfold Observer.start
    split
    · exact alive
    · intro failed
      cases failed
  | connected ok =>
    obtain rfl := eq_of_guarded isNext
    rw [connects ok rfl]
    intro failed
    cases failed
  | subscribed ok =>
    simp only [Observer.Event.throwing, Observer.step] at isNext
    split at isNext
    · obtain rfl := Option.some.inj isNext
      rw [subscribes ok rfl, Observer.startSubscribed, if_neg (by decide)]
      split
      · intro failed
        cases failed
      · intro failed
        cases failed
    · cases isNext
  | adopted =>
    obtain rfl := eq_of_guarded isNext
    simp only [Observer.startAdopted]
    split
    · rw [(scheduleRefresh_start _).phase]
      intro failed
      cases failed
    · intro failed
      cases failed
  | stop =>
    obtain rfl := Option.some.inj isNext
    unfold Observer.stop
    split <;> exact alive
  | objectSignal listener signal =>
    obtain rfl := eq_of_guarded isNext
    rwa [(onObjectSignal_start o signal).phase]
  | nameOwnerChanged signal _ =>
    obtain rfl := eq_of_guarded isNext
    rwa [(onNameOwnerChanged_start o signal false).phase]
  | disconnected =>
    obtain rfl := eq_of_guarded isNext
    rwa [(handleSourceGone_start o false).phase]
  | reconnected =>
    obtain rfl := eq_of_guarded isNext
    exact alive
  | ownerReply id reply _ =>
    obtain ⟨adoption, -, -, rfl⟩ := step_ownerReply isNext
    unfold Observer.settleAdoption
    split
    · have quiet : (Observer.handleSourceGone
          { o with adoptions := o.adoptions.erase adoption } false).2 = false := by
        rw [← Bool.not_eq_true]
        intro threw
        have stored : ValidRows
            { o with adoptions := o.adoptions.erase adoption, currentOwner := none } :=
          wired.valid
        cases markUnavailable_throws stored threw
      simp only [quiet]
      apply settleStart_phase
      rwa [(handleSourceGone_start _ false).phase]
    · exact alive
  | treeReply id reply _ _ =>
    obtain ⟨refresh, -, -, rfl⟩ := step_treeReply isNext
    obtain ⟨store, rejected, -, only, settled⟩ :=
      settleRefresh_cases wired.valid refresh reply false false
    have quiet : rejected = false := by
      rw [← Bool.not_eq_true]
      intro rejects
      cases only rejects
    rw [settled, quiet]
    apply settleStart_phase
    rwa [(finishRefresh_start _).phase]

end Starting

/-! ### Runs that conform -/

/-- What is kept along a run that conforms, beside the same run without throws. -/
structure Alike (b calm : Broadcast) : Prop where
  wired : b.observer.Wired
  alive : b.observer.phase ≠ .failed
  delivered : ∀ emission ∈ b.emissions, emission.received = emission.listeners
  observer : calm.observer = b.observer
  listeners : calm.listeners = b.listeners

theorem alike_init : Alike init init := by
  constructor
  · exact Observer.wired_init
  · decide
  · rintro emission ⟨⟩
  · rfl
  · rfl

theorem Alike.step {b calm next : Broadcast} (alike : Alike b calm) {event : Event}
    (conforms : b.Conforms event) (isNext : b.step event = some next) :
    ∃ calmNext, calm.step event.calm = some calmNext ∧ Alike next calmNext := by
  obtain ⟨wired, alive, delivered, sameObserver, sameListeners⟩ := alike
  cases event with
  | observe | unsubscribe =>
    obtain rfl := Option.some.inj isNext
    exact ⟨_, rfl, wired, alive, delivered, sameObserver, by simp [sameListeners]⟩
  | cleared =>
    obtain ⟨stopped, isNext⟩ := Option.ite_none_right_eq_some.mp isNext
    obtain rfl := Option.some.inj isNext
    refine ⟨{ calm with listeners := [] }, ?_, wired, alive, delivered, sameObserver, rfl⟩
    rw [show Event.calm .cleared = .cleared from rfl, Broadcast.step, sameObserver,
      if_pos stopped]
  | happens event throws rethrows =>
    obtain ⟨observer, isStep, rfl⟩ := Option.map_eq_some_iff.mp isNext
    have isCalm := isStep
    rw [step_calm conforms] at isCalm
    have quiet : calm.listeners.any (fun _ => false) = false := by simp
    refine ⟨{ calm with
      observer
      emissions := calm.emissions ++
        calm.observer.emissions calm.listeners (fun _ => false) (fun _ => false) event },
      ?_, ?_, ?_, ?_, rfl, sameListeners⟩
    · rw [Event.calm, Broadcast.step, quiet, sameObserver, isCalm]
      rfl
    · exact wired.step isStep
    · apply step_alive wired alive ?_ ?_ isCalm
      · rintro ok rfl
        exact conforms
      · rintro ok rfl
        exact conforms
    · intro emission mem
      rcases List.mem_append.mp mem with earlier | now
      · exact delivered emission earlier
      · exact step_delivered conforms emission now

theorem Alike.run {events : List Event} {b calm last : Broadcast} (alike : Alike b calm)
    (conforming : b.Conforming events) (ran : b.run events = some last) :
    ∃ calmLast, calm.run (events.map Event.calm) = some calmLast ∧ Alike last calmLast := by
  induction events generalizing b calm with
  | nil =>
    obtain rfl := Option.some.inj ran
    exact ⟨calm, rfl, alike⟩
  | cons event events ih =>
    obtain ⟨next, isNext, ran⟩ := Option.bind_eq_some_iff.mp ran
    obtain ⟨calmNext, isCalm, alike⟩ := alike.step conforming.1 isNext
    obtain ⟨calmLast, ranCalm, alike⟩ := ih alike (conforming.2 next isNext) ran
    refine ⟨calmLast, ?_, alike⟩
    rw [List.map_cons, Broadcast.run, isCalm]
    exact ranCalm

/-- In a run that conforms, no start rejects, every listener receives every emission, and
what is stored is what it would be had no listener thrown. -/
theorem listeners_isolated {events : List Event} {b : Broadcast}
    (ran : init.run events = some b) (conforming : init.Conforming events) :
    Unharmed events b := by
  obtain ⟨calm, ranCalm, alike⟩ := alike_init.run conforming ran
  constructor
  · intro failed
    exact absurd failed alike.alive
  · exact alike.delivered
  · exact ⟨calm, ranCalm, by rw [alike.observer]⟩

/-! ### Runs that do not -/

/-- The state after a run. -/
def reach (events : List Event) : Broadcast := (init.run events).getD init

theorem run_reach {events : List Event} (possible : (init.run events).isSome = true) :
    init.run events = some (reach events) := by
  obtain ⟨b, ran⟩ := Option.isSome_iff_exists.mp possible
  rw [reach, ran]
  rfl

/-- A step in which no listener throws. -/
def quietly (event : Observer.Event) : Event :=
  .happens event (fun _ => false) fun _ => false

/-- Two listeners, and a start up to the request for the tree. -/
def startingWithListeners : List Event :=
  [.observe 1, .observe 2] ++ Observer.starting.map quietly ++
    [quietly (.ownerReply 0 (some [.string Observer.someOwner]) false)]

/-- The first listener throws when the tree is there. -/
def throwingRefresh : List Event :=
  startingWithListeners ++
    [.happens (.treeReply 0 (some (Watched.searchingModems ["/0"])) false false)
      (fun listener => listener = 1) fun _ => false]

/-- The bus cannot be reached. -/
def failedConnect : List Event := [quietly .start, quietly (.connected false)]

/-- After a start that could not connect, another one does nothing; and a listener that
throws on the first tree keeps it from the next one and has the rows marked unavailable. -/
theorem throwing_harms :
    ((reach failedConnect).observer.phase = .failed ∧
        (reach failedConnect).observer.start.phase = .failed ∧
        ¬ Unharmed failedConnect (reach failedConnect)) ∧
      ((reach throwingRefresh).emissions.map (·.received) = [[1], [1, 2]] ∧
        (reach throwingRefresh).observer.store.sourceHealthy = false ∧
        (reach (throwingRefresh.map Event.calm)).observer.store.sourceHealthy = true ∧
        ¬ Unharmed throwingRefresh (reach throwingRefresh)) := by
  have isFailed : (reach failedConnect).observer.phase = .failed := by decide
  have received : (reach throwingRefresh).emissions.map (·.received) = [[1], [1, 2]] := by
    decide
  refine ⟨⟨isFailed, by decide, ?_⟩, received, by decide, by decide, ?_⟩
  · intro unharmed
    have started := (unharmed.restartable isFailed).started
    revert started
    decide
  · intro unharmed
    have delivered : (reach throwingRefresh).emissions.map (·.received) =
        (reach throwingRefresh).emissions.map (·.listeners) :=
      List.map_congr_left unharmed.delivered
    rw [received] at delivered
    revert delivered
    decide

/-- The last listener throws when the source is lost. -/
def throwingLoss : List Event :=
  startingWithListeners ++
    [quietly (.treeReply 0 (some (Watched.searchingModems ["/0"])) false false), quietly .adopted,
      .happens (.disconnected false) (fun listener => listener = 2) fun _ => false]

theorem listeners_isolated_loss : Unharmed throwingLoss (reach throwingLoss) :=
  listeners_isolated (run_reach (by decide)) (by decide)

end Broadcast

end ModemStack.Backend
