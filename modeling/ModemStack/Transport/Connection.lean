import ModemStack.Data.OrderedMap
import ModemStack.Text.JsString

/-!
The D-Bus transport: the attempts to establish a bus, drops, the reconnect loop, teardown
and the match rules of signal subscriptions.

An event is a call, or the answer to what a call awaits. Between two awaits a function runs
as one step. Each bus carries the attempt that is to establish it, as long as there is one.
-/

namespace ModemStack.Transport

open ModemStack.Data ModemStack.Text

/-! ### Signals -/

structure SignalSpec where
  interface : JsString
  member : JsString
  path : Option JsString
  sender : Option JsString

def buildMatchRule (spec : SignalSpec) : JsString :=
  let part := fun (name : String) (value : JsString) => js name ++ js "='" ++ value ++ js "'"
  (js ",").intercalate ([part "type" (js "signal"), part "interface" spec.interface,
    part "member" spec.member] ++ (spec.path.map (part "path")).toList ++
      (spec.sender.map (part "sender")).toList)

structure SubscriptionRecord where
  id : Nat
  spec : SignalSpec
  rule : JsString

/-- How many subscriptions use a rule. `since` tells when the rule was inserted: an iteration
over the rules meets those inserted while it lasts. -/
structure RuleCount where
  count : Nat
  since : Nat

/-- What a caller of `subscribe` is handed. -/
structure Subscription where
  rule : JsString
  removed : Bool

/-- An `AddMatch` that a `subscribe` awaits. -/
structure AddMatch where
  id : Nat
  bus : Nat
  rule : JsString
deriving DecidableEq

/-- A `RemoveMatch` that an `unsubscribe` awaits. -/
structure RemoveMatch where
  bus : Nat
  rule : JsString
deriving DecidableEq

/-- The registry, the calls it awaits and the ids whose `subscribe` has rejected. -/
structure SignalRegistry where
  subscriptions : List SubscriptionRecord
  matchRuleRefcount : OrderedMap JsString RuleCount
  nextSubId : Nat
  inserted : Nat
  handles : OrderedMap Nat Subscription
  adding : List AddMatch
  removing : List RemoveMatch
  rejected : List Nat

namespace SignalRegistry

def count (signals : SignalRegistry) (rule : JsString) : Nat :=
  ((signals.matchRuleRefcount.get rule).map RuleCount.count).getD 0

def setCount (signals : SignalRegistry) (rule : JsString) (count : Nat) : SignalRegistry :=
  match signals.matchRuleRefcount.get rule with
  | some known => { signals with
      matchRuleRefcount := signals.matchRuleRefcount.set rule { known with count } }
  | none => { signals with
      matchRuleRefcount := signals.matchRuleRefcount.set rule ⟨count, signals.inserted + 1⟩
      inserted := signals.inserted + 1 }

/-- The subscription is recorded and its rule counted. -/
def enrol (signals : SignalRegistry) (spec : SignalSpec) : SignalRegistry :=
  let rule := buildMatchRule spec
  { signals with
    nextSubId := signals.nextSubId + 1
    subscriptions := signals.subscriptions ++ [SubscriptionRecord.mk signals.nextSubId spec rule]
  }.setCount rule (signals.count rule + 1)

def handOver (signals : SignalRegistry) (id : Nat) (rule : JsString) : SignalRegistry :=
  { signals with handles := signals.handles.set id ⟨rule, false⟩ }

/-- The subscription is deleted and its rule counted down. -/
def retire (signals : SignalRegistry) (id : Nat) (rule : JsString) : SignalRegistry :=
  let current := signals.count rule
  let signals := { signals with
    handles := signals.handles.set id ⟨rule, true⟩
    subscriptions := signals.subscriptions.filter fun record => record.id ≠ id }
  if current ≤ 1 then
    { signals with matchRuleRefcount := signals.matchRuleRefcount.filter fun key => key ≠ rule }
  else signals.setCount rule (current - 1)

/-- The rule an iteration meets next. -/
def nextRule (signals : SignalRegistry) (since : Nat) : Option (JsString × RuleCount) :=
  signals.matchRuleRefcount.items.find? fun item => since < item.2.since

end SignalRegistry

/-! ### The transport -/

inductive State where
  | idle
  | connecting
  | connected
  | disconnected
  | reconnecting
  | closed
deriving DecidableEq

/-- `ResolvedReconnect` -/
structure Reconnect where
  enabled : Bool
  initialDelayMs : Nat
  maxDelayMs : Nat
  maxAttempts : Nat

def DEFAULT_RECONNECT : Reconnect := ⟨true, 50, 2000, 0⟩

/-- Who awaits an attempt. -/
inductive Owner where
  | connect
  | reconnectLoop
deriving DecidableEq

/-- What `#establish` awaits: the handshake, the `AddMatch` of a rule, or the return of
`reissueRules`. -/
inductive Phase where
  | handshake
  | addMatch (since : Nat) (rule : JsString)
  | reissued
deriving DecidableEq

/-- What an iteration over the rules awaits after the one inserted at `since`. -/
def SignalRegistry.nextPhase (signals : SignalRegistry) (since : Nat) : Phase :=
  match signals.nextRule since with
  | none => .reissued
  | some (rule, count) => .addMatch count.since rule

structure Attempt where
  owner : Owner
  phase : Phase
deriving DecidableEq

/-- A bus: whether the transport's handlers are attached, its socket has ended or the
transport has torn it down; the attempt that establishes it; the rules installed on it. -/
structure Bus where
  carries : Bool
  lost : Bool
  closed : Bool
  attempt : Option Attempt
  rules : List JsString

structure ReconnectLoop where
  attempt : Nat
  delay : Nat
  sleeping : Bool

/-- What a `disconnect` awaits. -/
inductive Closer where
  | closing (awaitsLoop : Bool)
  | awaitingLoop
  | resolved
deriving DecidableEq

/-- The transport and every bus it has created. -/
structure DbusTransport where
  bus : Option Nat
  state : State
  closing : Bool
  loop : Option ReconnectLoop
  signals : SignalRegistry
  created : Nat
  buses : Nat → Bus
  closers : List Closer

namespace DbusTransport

def new : DbusTransport where
  bus := none
  state := .idle
  closing := false
  loop := none
  signals := ⟨[], .empty, 1, 0, .empty, [], [], []⟩
  created := 0
  buses _ := ⟨false, false, false, none, []⟩
  closers := []

def onBus (t : DbusTransport) (b : Nat) (change : Bus → Bus) : DbusTransport :=
  { t with buses := Function.update t.buses b (change (t.buses b)) }

variable (t : DbusTransport)

@[simp] theorem buses_onBus (b b' : Nat) (change : Bus → Bus) :
    (t.onBus b change).buses b' = if b' = b then change (t.buses b) else t.buses b' :=
  Function.update_apply _ _ _ _

variable (b : Nat)

@[simp] theorem onBus_onBus (first second : Bus → Bus) :
    (t.onBus b first).onBus b second = t.onBus b fun bus => second (first bus) := by
  simp [onBus]

@[simp] theorem loop_onBus (change : Bus → Bus) :
    (t.onBus b change).loop = t.loop := rfl

@[simp] theorem closing_onBus (change : Bus → Bus) :
    (t.onBus b change).closing = t.closing := rfl

/-- The transport with other subscriptions, and other match rules on its buses. -/
def ruled (t : DbusTransport) (signals : SignalRegistry)
    (rules : Nat → List JsString) : DbusTransport :=
  { t with signals, buses := fun b => { t.buses b with rules := rules b } }

theorem onBus_rules (signals : SignalRegistry)
    (rules : List JsString) :
    { t.onBus b fun bus => { bus with rules } with signals } =
      t.ruled signals (Function.update (fun b => (t.buses b).rules) b rules) := by
  simp only [onBus, ruled, DbusTransport.mk.injEq, true_and, and_true]
  funext b'
  by_cases same : b' = b
  · subst same
    simp
  · simp [Function.update_of_ne same]

/-! ### Establishing a bus -/

/-- `#establish`, up to the handshake. -/
def establish (owner : Owner) (t : DbusTransport) : DbusTransport :=
  { t with
    created := t.created + 1
    buses := Function.update t.buses t.created ⟨false, false, false, some ⟨owner, .handshake⟩, []⟩ }

@[simp] theorem buses_establish (owner : Owner) (t : DbusTransport) (b : Nat) :
    (establish owner t).buses b =
      if b = t.created then ⟨false, false, false, some ⟨owner, .handshake⟩, []⟩ else t.buses b :=
  Function.update_apply _ _ _ _

/-- The iteration of `reissueRules`, after the rule inserted at `since`. -/
def reissueRules (b : Nat) (owner : Owner) (since : Nat) (t : DbusTransport) : DbusTransport :=
  t.onBus b fun bus => { bus with attempt := some ⟨owner, t.signals.nextPhase since⟩ }

def attachHandlers (b : Nat) (t : DbusTransport) : DbusTransport :=
  t.onBus b fun bus => { bus with carries := true }

def install (b : Nat) (rule : JsString) (t : DbusTransport) : DbusTransport :=
  t.onBus b fun bus => { bus with rules := rule :: bus.rules }

/-- A removal takes one of the times a rule was added. -/
def uninstall (b : Nat) (rule : JsString) (t : DbusTransport) : DbusTransport :=
  t.onBus b fun bus => { bus with rules := bus.rules.erase rule }

/-- The `catch` of the reconnect loop. -/
def attemptFailed (reconnect : Reconnect) (t : DbusTransport) : DbusTransport :=
  match t.loop with
  | none => t
  | some loop =>
    if 0 < reconnect.maxAttempts ∧ reconnect.maxAttempts ≤ loop.attempt then
      { t with state := .disconnected, loop := none }
    else { t with loop := some { loop with sleeping := true } }

@[simp] theorem buses_attemptFailed (reconnect : Reconnect) (t : DbusTransport) :
    (t.attemptFailed reconnect).buses = t.buses := by
  unfold attemptFailed
  cases t.loop with
  | none => rfl
  | some => exact apply_ite buses _ _ _ |>.trans (ite_self _)

/-- The `catch` of `#establish`. -/
def abort (reconnect : Reconnect) (b : Nat) (owner : Owner) (t : DbusTransport) : DbusTransport :=
  let t := t.onBus b fun bus => { bus with carries := false, closed := true, attempt := none }
  match owner with
  | .connect => t
  | .reconnectLoop => t.attemptFailed reconnect

def publish (b : Nat) (owner : Owner) (t : DbusTransport) : DbusTransport :=
  let t := t.onBus b fun bus => { bus with attempt := none }
  { t with
    bus := some b
    state := .connected
    loop := match owner with
      | .connect => t.loop
      | .reconnectLoop => none }

/-! ### Drops and the reconnect loop -/

def quiesce (t : DbusTransport) : DbusTransport :=
  match t.bus with
  | none => t
  | some b => t.onBus b fun bus => { bus with carries := false }

@[simp] theorem loop_quiesce : t.quiesce.loop = t.loop := by
  unfold quiesce
  cases t.bus <;> rfl

@[simp] theorem created_quiesce : t.quiesce.created = t.created := by
  unfold quiesce
  cases t.bus <;> rfl

@[simp] theorem closing_quiesce : t.quiesce.closing = t.closing := by
  unfold quiesce
  cases t.bus <;> rfl

def handleDrop (reconnect : Reconnect) (t : DbusTransport) : DbusTransport :=
  if t.closing then t
  else if t.state = .disconnected ∨ t.state = .reconnecting then t
  else
    let t := { t.quiesce with state := .disconnected, bus := none }
    if reconnect.enabled ∧ t.loop.isNone then
      establish .reconnectLoop
        { t with state := .reconnecting, loop := some ⟨1, reconnect.initialDelayMs, false⟩ }
    else t

/-- The socket of a bus ends. Where its handlers are attached they run. -/
def lose (reconnect : Reconnect) (b : Nat) (t : DbusTransport) : DbusTransport :=
  let t := t.onBus b fun bus => { bus with lost := true }
  if (t.buses b).carries then t.handleDrop reconnect else t

/-- The backoff of the loop is over, or was cut short. -/
def wake (reconnect : Reconnect) (t : DbusTransport) : DbusTransport :=
  match t.loop with
  | some ⟨attempt, delay, true⟩ =>
    if t.closing then { t with loop := none }
    else
      establish .reconnectLoop
        { t with loop := some ⟨attempt + 1, min (delay * 2) reconnect.maxDelayMs, false⟩ }
  | _ => t

/-! ### Teardown -/

def disconnect (t : DbusTransport) : DbusTransport :=
  let awaitsLoop := t.loop.isSome
  match t.bus with
  | some b =>
    let t := t.onBus b fun bus => { bus with carries := false, closed := true }
    { t with
      closing := true, state := .closed, bus := none
      closers := t.closers ++ [.closing awaitsLoop] }
  | none =>
    { t with
      closing := true, state := .closed
      closers := t.closers ++ [if awaitsLoop then .awaitingLoop else .resolved] }

/-- A `disconnect` goes on: its bus has answered, or the loop it awaits is over. -/
def resumeCloser (k : Nat) (t : DbusTransport) : DbusTransport :=
  match t.closers[k]? with
  | some (.closing true) => { t with closers := t.closers.set k .awaitingLoop }
  | some (.closing false) => { t with closers := t.closers.set k .resolved }
  | some .awaitingLoop =>
    if t.loop.isNone then { t with closers := t.closers.set k .resolved } else t
  | _ => t

/-! ### Subscriptions -/

/-- The bus that match rules are added to and removed from. -/
def ruleBus (t : DbusTransport) : Option Nat :=
  if t.state = .connected then t.bus else none

def subscribe (spec : SignalSpec) (t : DbusTransport) : DbusTransport :=
  let rule := buildMatchRule spec
  let id := t.signals.nextSubId
  let signals := t.signals.enrol spec
  match t.ruleBus with
  | some b =>
    if t.signals.count rule = 0 then
      { t with signals := { signals with adding := AddMatch.mk id b rule :: signals.adding } }
    else { t with signals := signals.handOver id rule }
  | none => { t with signals := signals.handOver id rule }

/-- The answer to the `AddMatch` of a `subscribe`. -/
def added (call : AddMatch) (ok : Bool) (t : DbusTransport) : DbusTransport :=
  if call ∈ t.signals.adding then
    let signals := { t.signals with adding := t.signals.adding.erase call }
    if ok then { t.install call.bus call.rule with signals := signals.handOver call.id call.rule }
    else { t with signals := { signals with rejected := call.id :: signals.rejected } }
  else t

def unsubscribe (id : Nat) (t : DbusTransport) : DbusTransport :=
  match t.signals.handles.get id with
  | some ⟨rule, false⟩ =>
    let signals := t.signals.retire id rule
    match t.ruleBus with
    | some b =>
      if t.signals.count rule = 1 then
        { t with signals := { signals with removing := RemoveMatch.mk b rule :: signals.removing } }
      else { t with signals }
    | none => { t with signals }
  | _ => t

/-- The answer to the `RemoveMatch` of an `unsubscribe`, whose failure is swallowed. -/
def removed (call : RemoveMatch) (ok : Bool) (t : DbusTransport) : DbusTransport :=
  if call ∈ t.signals.removing then
    let signals := { t.signals with removing := t.signals.removing.erase call }
    if ok then { t.uninstall call.bus call.rule with signals } else { t with signals }
  else t

end DbusTransport

/-! ### Events -/

inductive Event where
  | connect
  | disconnect
  | lost (bus : Nat)
  | handshake (bus : Nat) (ok : Bool)
  | addMatch (bus : Nat) (ok : Bool)
  | reissued (bus : Nat)
  | wake
  | closer (k : Nat)
  | subscribe (spec : SignalSpec)
  | added (call : AddMatch) (ok : Bool)
  | unsubscribe (id : Nat)
  | removed (call : RemoveMatch) (ok : Bool)

/-- An answer nothing awaits changes nothing. -/
def DbusTransport.step (reconnect : Reconnect) (t : DbusTransport) : Event → DbusTransport
  | .connect =>
    if t.state = .connected ∨ t.closing then t
    else establish .connect { t with state := .connecting }
  | .disconnect => t.disconnect
  | .lost b => t.lose reconnect b
  | .handshake b ok =>
    match (t.buses b).attempt with
    | some ⟨owner, .handshake⟩ =>
      if ok then (t.attachHandlers b).reissueRules b owner 0 else t.abort reconnect b owner
    | _ => t
  | .addMatch b ok =>
    match (t.buses b).attempt with
    | some ⟨owner, .addMatch since rule⟩ =>
      if ok then (t.install b rule).reissueRules b owner since else t.abort reconnect b owner
    | _ => t
  | .reissued b =>
    match (t.buses b).attempt with
    | some ⟨owner, .reissued⟩ => if t.closing then t.abort reconnect b owner else t.publish b owner
    | _ => t
  | .wake => t.wake reconnect
  | .closer k => t.resumeCloser k
  | .subscribe spec => t.subscribe spec
  | .added call ok => t.added call ok
  | .unsubscribe id => t.unsubscribe id
  | .removed call ok => t.removed call ok

def DbusTransport.run (reconnect : Reconnect) (events : List Event) : DbusTransport :=
  events.foldl (DbusTransport.step reconnect) .new

end ModemStack.Transport
