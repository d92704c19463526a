import ModemStack.Backend.Revisions

/-!
The observer of the ModemManager name: which owner it tracks, when it asks for the
object tree, and which trees it reconciles.

Signals, transport events and replies are the steps of a machine, in any order. A
continuation of an `await` is a step of its own, so a call in flight is a record in
the state that says what its continuation needs. Listeners are outside the model; a
step says whether one of them throws when the observer emits to it.
-/

namespace ModemStack.Backend

open ModemStack.Text

/-! ### Signals and replies -/

/-- A unique bus name. -/
abbrev Owner := JsString

structure SignalEvent where
  sender : Option JsString
  body : List DbusValue

def mmBusName : JsString := js "org.freedesktop.ModemManager1"

inductive OwnerSignal where
  | unrelated
  | lost
  | owned (owner : Owner)
deriving DecidableEq

def routeOwnerSignal (event : SignalEvent) : OwnerSignal :=
  match (event.body[0]? : Option DbusValue) with
  | some (.string name) =>
    if name = mmBusName then
      match (event.body[2]? : Option DbusValue) with
      | some (.string newOwner) => if newOwner = [] then .lost else .owned newOwner
      | _ => .lost
    else .unrelated
  | _ => .unrelated

def isCurrentOwnerSignal (event : SignalEvent) (currentOwner : Option Owner) : Bool :=
  match currentOwner with
  | some owner => event.sender = some owner
  | none => false

/-- The owner a `GetNameOwner` reply names; a call that fails names none. -/
def queriedOwner (reply : Option (List DbusValue)) : Option Owner :=
  match reply with
  | some (.string owner :: _) => if owner = [] then none else some owner
  | _ => none

/-! ### State -/

/-- A `GetNameOwner` call in flight, awaited by `start` or by nobody. -/
structure Adoption where
  id : Nat
  starting : Bool
deriving DecidableEq

/-- A `GetManagedObjects` call in flight. -/
structure Refresh where
  id : Nat
  epochOwner : Owner
  starting : Bool
deriving DecidableEq

/-- What `start` awaits; `subscribing n` is the subscription of the `n`-th listener, of
three for objects and one for the name. -/
inductive StartPhase where
  | idle
  | connecting
  | subscribing (listener : Nat)
  | adopting
  | resuming
  | returned
  | failed
deriving DecidableEq

def StartPhase.inProgress : StartPhase → Bool
  | .idle | .returned | .failed => false
  | _ => true

structure Observer where
  store : ObservationRowStore
  currentOwner : Option Owner
  started : Bool
  stopped : Bool
  priming : Bool
  refreshDuringPrime : Bool
  refreshing : Bool
  refreshQueued : Bool
  phase : StartPhase
  /-- Whether the handlers of transport events are registered. -/
  handlers : Bool
  /-- How many of the four signal listeners are registered. -/
  listening : Nat
  /-- Whether the subscriptions are held, for `stop` to end them. -/
  subscriptions : Bool
  adoptions : List Adoption
  refreshes : List Refresh
  /-- How many calls of either kind have been made. -/
  queried : Nat
  requested : Nat

namespace Observer

def init : Observer where
  store := .init
  currentOwner := none
  started := false
  stopped := false
  priming := false
  refreshDuringPrime := false
  refreshing := false
  refreshQueued := false
  phase := .idle
  handlers := false
  listening := 0
  subscriptions := false
  adoptions := []
  refreshes := []
  queried := 0
  requested := 0

/-! ### Handlers -/

variable (o : Observer)

/-- The second component says that marking or a listener threw. -/
def markUnavailable (throws : Bool) (reason : ObservationFailureReason) : Observer × Bool :=
  match o.store.markUnavailable reason with
  | (store, .error _) => ({ o with store }, true)
  | (store, .ok due) => ({ o with store }, due && throws)

def handleSourceGone (throws : Bool) : Observer × Bool :=
  { o with currentOwner := none }.markUnavailable throws .sourceUnavailable

/-- The part of `runRefresh` before its `await`. -/
def runRefresh (epochOwner : Owner) (starting : Bool) : Observer :=
  { o with
    refreshing := true
    refreshes := o.refreshes ++ [⟨o.requested, epochOwner, starting⟩]
    requested := o.requested + 1 }

def scheduleRefresh : Observer :=
  match o.currentOwner with
  | none => o
  | some owner =>
    if o.stopped then o
    else if o.refreshing then { o with refreshQueued := true }
    else o.runRefresh owner false

/-- The `catch` of `runRefresh`. -/
def catchRefresh (epochOwner : Owner) (throws : Bool) : Observer × Bool :=
  if o.currentOwner = some epochOwner ∧ o.stopped = false then o.markUnavailable throws .busError
  else (o, false)

/-- A reply that comes now is late. -/
def Superseded (epochOwner : Owner) : Prop :=
  o.currentOwner ≠ some epochOwner ∨ o.stopped = true

instance (epochOwner : Owner) : Decidable (o.Superseded epochOwner) :=
  inferInstanceAs (Decidable (_ ∨ _))

/-- The `try` of `runRefresh`, after its `await`. The hook for a refreshed epoch cannot
throw out of it. -/
def tryRefresh (epochOwner : Owner) (tree : DecodedManagedObjects) (throws rethrows : Bool) :
    Observer × Bool :=
  if o.Superseded epochOwner then (o, false)
  else match o.store.reconcile tree with
    | (store, .error _) => { o with store }.catchRefresh epochOwner rethrows
    | (store, .ok rowsChanged) =>
      let (store', healthChanged) := store.markHealthy
      let o' := { o with store := store' }
      if (rowsChanged || healthChanged) && throws then o'.catchRefresh epochOwner rethrows
      else (o', false)

/-- The `finally` of `runRefresh`. -/
def finishRefresh : Observer :=
  let o' := { o with refreshing := false }
  if o'.refreshQueued && !o'.stopped then { o' with refreshQueued := false }.scheduleRefresh
  else o'

/-- When `start` awaited the call that has settled, it goes on or rejects. -/
def settleStart (starting rejected : Bool) : Observer :=
  if starting then { o with phase := if rejected then .failed else .resuming } else o

/-- The observer after a call has left the list of those in flight. -/
def without (refresh : Refresh) : Observer :=
  { o with refreshes := o.refreshes.erase refresh }

/-- The continuation of a `GetManagedObjects` call; a call that fails has no tree. -/
def settleRefresh (refresh : Refresh) (reply : Option DecodedManagedObjects)
    (throws rethrows : Bool) : Observer :=
  let (o', rejected) := match reply with
    | some tree => (o.without refresh).tryRefresh refresh.epochOwner tree throws rethrows
    | none => (o.without refresh).catchRefresh refresh.epochOwner rethrows
  o'.finishRefresh.settleStart refresh.starting rejected

/-- The part of `adoptCurrentOwner` before its `await`. -/
def adoptCurrentOwner (starting : Bool) : Observer :=
  { o with
    adoptions := o.adoptions ++ [⟨o.queried, starting⟩]
    queried := o.queried + 1 }

/-- The continuation of a `GetNameOwner` call. -/
def settleAdoption (adoption : Adoption) (reply : Option (List DbusValue)) (throws : Bool) :
    Observer :=
  let o' := { o with adoptions := o.adoptions.erase adoption }
  match queriedOwner reply with
  | none =>
    let (o', threw) := o'.handleSourceGone throws
    o'.settleStart adoption.starting threw
  | some owner => { o' with currentOwner := some owner }.runRefresh owner adoption.starting

def onNameOwnerChanged (event : SignalEvent) (throws : Bool) : Observer :=
  match routeOwnerSignal event with
  | .unrelated => o
  | .lost => (o.handleSourceGone throws).1
  | .owned owner =>
    if o.currentOwner = some owner then o
    else
      let (o', threw) := o.markUnavailable throws .sourceUnavailable
      if threw then o' else { o' with currentOwner := some owner }.scheduleRefresh

def onObjectSignal (event : SignalEvent) : Observer :=
  if isCurrentOwnerSignal event o.currentOwner = false then o
  else if o.priming then { o with refreshDuringPrime := true }
  else o.scheduleRefresh

/-! ### Starting and stopping -/

def start : Observer :=
  if o.started then o else { o with started := true, priming := true, phase := .connecting }

/-- After `connect`, `start` registers its handlers and subscribes. -/
def startConnected (ok : Bool) : Observer :=
  if ok then { o with handlers := true, listening := 1, phase := .subscribing 0 }
  else { o with phase := .failed }

/-- A listener is registered when its subscription is asked for. -/
def startSubscribed (listener : Nat) (ok : Bool) : Observer :=
  if ok = false then { o with phase := .failed }
  else if listener < 3 then
    { o with listening := listener + 2, phase := .subscribing (listener + 1) }
  else { o with subscriptions := true, phase := .adopting }.adoptCurrentOwner true

def startAdopted : Observer :=
  let o' := { o with priming := false, phase := .returned }
  if o'.refreshDuringPrime then { o' with refreshDuringPrime := false }.scheduleRefresh else o'

def stop : Observer :=
  if o.stopped then o
  else
    { o with
      stopped := true
      handlers := false
      listening := if o.subscriptions then 0 else o.listening
      subscriptions := false }

/-! ### Steps -/

inductive Event where
  | start
  | connected (ok : Bool)
  | subscribed (ok : Bool)
  | adopted
  | stop
  | objectSignal (listener : Nat) (event : SignalEvent)
  | nameOwnerChanged (event : SignalEvent) (throws : Bool)
  | disconnected (throws : Bool)
  | reconnected
  | ownerReply (id : Nat) (reply : Option (List DbusValue)) (throws : Bool)
  | treeReply (id : Nat) (reply : Option DecodedManagedObjects) (throws rethrows : Bool)

/-- `none` when nothing can bring the event about. -/
def step (event : Event) : Option Observer :=
  match event with
  | .start => some o.start
  | .connected ok => if o.phase = .connecting then some (o.startConnected ok) else none
  | .subscribed ok => match o.phase with
    | .subscribing listener => some (o.startSubscribed listener ok)
    | _ => none
  | .adopted => if o.phase = .resuming then some o.startAdopted else none
  | .stop => some o.stop
  | .objectSignal listener event =>
    if listener < 3 ∧ listener < o.listening then some (o.onObjectSignal event) else none
  | .nameOwnerChanged event throws =>
    if 3 < o.listening then some (o.onNameOwnerChanged event throws) else none
  | .disconnected throws => if o.handlers then some (o.handleSourceGone throws).1 else none
  | .reconnected => if o.handlers then some (o.adoptCurrentOwner false) else none
  | .ownerReply id reply throws =>
    (o.adoptions.find? fun adoption => adoption.id = id).map
      fun adoption => o.settleAdoption adoption reply throws
  | .treeReply id reply throws rethrows =>
    (o.refreshes.find? fun refresh => refresh.id = id).map
      fun refresh => o.settleRefresh refresh reply throws rethrows

/-- No call is in flight, and `start` awaits nothing. -/
structure Quiescent : Prop where
  adoptions : o.adoptions = []
  refreshes : o.refreshes = []
  phase : o.phase.inProgress = false

instance : Decidable o.Quiescent :=
  decidable_of_iff (o.adoptions = [] ∧ o.refreshes = [] ∧ o.phase.inProgress = false)
    ⟨fun all => ⟨all.1, all.2.1, all.2.2⟩, fun quiet => ⟨quiet.1, quiet.2, quiet.3⟩⟩

/-- The states reached by steps of a kind. -/
inductive Runs (allowed : Observer → Event → Prop) (first : Observer) : Observer → Prop
  | refl : Runs allowed first first
  | step {last next : Observer} (event : Event) (runs : Runs allowed first last)
      (kind : allowed last event) (isNext : last.step event = some next) :
      Runs allowed first next

variable {allowed : Observer → Event → Prop}

theorem Runs.cons {first second last : Observer} {event : Event} (kind : allowed first event)
    (isNext : first.step event = some second) (runs : Runs allowed second last) :
    Runs allowed first last := by
  induction runs with
  | refl => exact .step event .refl kind isNext
  | step later _ ok next ih => exact .step later ih ok next

/-- A run along a list of events, if each is possible and of the kind. -/
def follow (allowed : Observer → Event → Prop) [∀ o event, Decidable (allowed o event)] :
    Observer → List Event → Option Observer
  | o, [] => some o
  | o, event :: events =>
    if allowed o event then (o.step event).bind (follow allowed · events) else none

theorem runs_of_follow [∀ o event, Decidable (allowed o event)] {first last : Observer}
    {events : List Event} (followed : follow allowed first events = some last) :
    Runs allowed first last := by
  induction events generalizing first with
  | nil =>
    obtain rfl := Option.some.inj followed
    exact .refl
  | cons event events ih =>
    obtain ⟨kind, rest⟩ := Option.ite_none_right_eq_some.mp followed
    obtain ⟨second, isNext, rest⟩ := Option.bind_eq_some_iff.mp rest
    exact .cons kind isNext (ih rest)

/-- The state after a list of events. -/
def reach (allowed : Observer → Event → Prop) [∀ o event, Decidable (allowed o event)]
    (o : Observer) (events : List Event) : Observer := (follow allowed o events).getD o

theorem runs_reach [∀ o event, Decidable (allowed o event)] {o : Observer} {events : List Event}
    (possible : (follow allowed o events).isSome) : Runs allowed o (reach allowed o events) := by
  obtain ⟨last, followed⟩ := Option.isSome_iff_exists.mp possible
  rw [reach, followed]
  exact runs_of_follow followed

end Observer

end ModemStack.Backend
