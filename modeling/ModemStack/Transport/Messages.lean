import ModemStack.Transport.Codec
import ModemStack.Transport.MatchRules

/-!
Method calls, the correlation of their replies, and the delivery of signals.

A call that has been handed to the bus is pending until its reply, its timeout or the drop of the
connection, whichever comes first. The loop that delivers a signal goes over the subscriptions as
they are at each of its turns.
-/

namespace ModemStack.Transport

open ModemStack.Async ModemStack.Text

structure MethodCall where
  interface : JsString
  member : JsString
  signature : Option JsString
  args : Option (List CodecValue)
  timeoutMs : Option Nat

structure MethodReply where
  signature : JsString
  body : List CodecValue

inductive CallError (ε : Type) where
  | disconnected (message : JsString)
  | transport (message : JsString)
  | codec (error : CodecError)
  | thrown (error : ε)

/-- What the bus passes to the reply callback. An error that is no `Error` comes as its text. -/
structure RawReply (ε : Type) where
  error : Option (ε ⊕ JsString)
  signature : Option JsString
  body : List CodecValue

variable {ε : Type}

abbrev CallResult (ε : Type) : Type := Except (CallError ε) MethodReply

/-- The body of the message; a call without a signature has none. -/
def MethodCall.body (call : MethodCall) : Except CodecError (List CodecValue) :=
  let signature := call.signature.getD []
  if signature = [] then .ok [] else encodeBody signature (call.args.getD [])

def RawReply.result (reply : RawReply ε) : CallResult ε :=
  match reply.error with
  | some (.inl error) => .error (.thrown error)
  | some (.inr text) => .error (.transport text)
  | none =>
    let signature := reply.signature.getD []
    if signature = [] then .ok ⟨signature, []⟩
    else match decodeBody signature reply.body with
      | .error error => .error (.codec error)
      | .ok decoded => .ok ⟨signature, decoded⟩

/-- A call as its closures see it: `done`, whether its timer is armed, whether its record is in the
set of the dispatcher, and what its promise has settled with. A call that is not handed to the bus
counts as done. -/
structure PendingCall (ε : Type) where
  call : MethodCall
  timeoutMs : Nat
  done : Bool
  armed : Bool
  pending : Bool
  promise : Option (CallResult ε)

inductive CallEvent (ε : Type) where
  /-- `invoked`: whether the bus throws at the message. -/
  | call (connected : Bool) (call : MethodCall) (invoked : Except ε Unit)
  | reply (id : Nat) (reply : RawReply ε)
  | timeout (id : Nat)
  | rejectAll (cause : CallError ε)

namespace PendingCall

/-- A bus that throws rejects the promise, but the call stays pending until its timeout. -/
def new (timeoutMs : Nat) (connected : Bool) (call : MethodCall) (invoked : Except ε Unit) :
    PendingCall ε :=
  if connected = false then ⟨call, timeoutMs, true, false, false,
    some (.error (.disconnected (js "cannot call method: transport not connected")))⟩
  else match call.body, invoked with
    | .error error, _ => ⟨call, timeoutMs, true, false, false, some (.error (.codec error))⟩
    | .ok _, .ok () => ⟨call, timeoutMs, false, true, true, none⟩
    | .ok _, .error error => ⟨call, timeoutMs, false, true, true, some (.error (.thrown error))⟩

def finish (c : PendingCall ε) : PendingCall ε :=
  if c.done then c else { c with done := true, armed := false, pending := false }

/-- `resolve` and `reject` -/
def settle (c : PendingCall ε) (result : CallResult ε) : PendingCall ε :=
  { c with promise := c.promise.or (some result) }

def timedOut (c : PendingCall ε) : CallResult ε :=
  .error (.transport (js "Method call " ++ c.call.interface ++ js "." ++ c.call.member ++
    js " timed out after " ++ printNat c.timeoutMs ++ js "ms"))

/-- What an event does to call `id`. -/
def meet (id : Nat) (c : PendingCall ε) : CallEvent ε → PendingCall ε
  | .call _ _ _ => c
  | .reply i reply => if i = id ∧ c.done = false then c.finish.settle reply.result else c
  | .timeout i => if i = id ∧ c.armed then c.finish.settle c.timedOut else c
  | .rejectAll cause =>
    { if c.pending then c.finish.settle (.error cause) else c with pending := false }

end PendingCall

/-- The calls, in the order they were made. -/
structure CallDispatcher (ε : Type) where
  callTimeoutMs : Nat
  calls : List (PendingCall ε)

namespace CallDispatcher

def step (d : CallDispatcher ε) (event : CallEvent ε) : CallDispatcher ε :=
  let calls := d.calls.mapIdx fun id c => c.meet id event
  match event with
  | .call connected call invoked =>
    { d with calls := calls ++
        [.new (call.timeoutMs.getD d.callTimeoutMs) connected call invoked] }
  | _ => { d with calls }

def run (callTimeoutMs : Nat) (events : List (CallEvent ε)) : CallDispatcher ε :=
  events.foldl step ⟨callTimeoutMs, []⟩

end CallDispatcher

/-! ### One call -/

namespace PendingCall

variable {c : PendingCall ε} {id : Nat}

/-- Until a call is done its timer is armed and its record kept; then its promise has settled. -/
structure Kept (c : PendingCall ε) : Prop where
  armed : c.armed = !c.done
  pending : c.pending = !c.done
  settled : c.done → c.promise.isSome

theorem kept_new (timeoutMs : Nat) (connected : Bool) (call : MethodCall)
    (invoked : Except ε Unit) : Kept (new timeoutMs connected call invoked) := by
  unfold new
  split
  · exact ⟨rfl, rfl, fun _ => rfl⟩
  · split <;> constructor <;> simp

/-- What an event brings call `id`. -/
def answer (id : Nat) (timedOut : CallResult ε) : CallEvent ε → Option (CallResult ε)
  | .call _ _ _ => none
  | .reply i reply => if i = id then some reply.result else none
  | .timeout i => if i = id then some timedOut else none
  | .rejectAll cause => some (.error cause)

/-- An event that brings a call no answer leaves it, the first answer ends it, and later ones are
ignored. -/
theorem Kept.meet (kept : Kept c) (event : CallEvent ε) : Kept (c.meet id event) ∧
    (c.meet id event).timedOut = c.timedOut ∧
      (c.meet id event).promise = c.promise.or (answer id c.timedOut event) := by
  obtain ⟨call, timeoutMs, done, armed, pending, promise⟩ := c
  obtain ⟨isArmed, isPending, settled⟩ := kept
  dsimp only at isArmed isPending settled
  subst isArmed isPending
  cases done with
  | true =>
    obtain ⟨result, rfl⟩ := Option.isSome_iff_exists.mp (settled rfl)
    have same : PendingCall.meet id ⟨call, timeoutMs, true, !true, !true, some result⟩ event =
        ⟨call, timeoutMs, true, !true, !true, some result⟩ := by
      cases event <;> simp [PendingCall.meet]
    rw [same]
    exact ⟨⟨rfl, rfl, fun _ => rfl⟩, rfl, by simp⟩
  | false =>
    cases event with
    | call => exact ⟨⟨rfl, rfl, by simp [PendingCall.meet]⟩, rfl, by simp [PendingCall.meet, answer]⟩
    | rejectAll => exact ⟨⟨rfl, rfl, by simp [PendingCall.meet, settle]⟩, rfl, rfl⟩
    | reply i _ | timeout i =>
      by_cases same : i = id
      · simp only [PendingCall.meet, answer, same]
        exact ⟨⟨rfl, rfl, by simp [settle]⟩, rfl, rfl⟩
      · simp only [PendingCall.meet, answer, same]
        exact ⟨⟨rfl, rfl, by simp⟩, rfl, by simp⟩

/-- The first answer settles the promise, unless it has settled. -/
theorem Kept.foldl (kept : Kept c) (events : List (CallEvent ε)) :
    Kept (events.foldl (PendingCall.meet id) c) ∧
      (events.foldl (PendingCall.meet id) c).promise =
        c.promise.or (events.findSome? (answer id c.timedOut)) := by
  induction events generalizing c with
  | nil => exact ⟨kept, by simp⟩
  | cons event events ih =>
    obtain ⟨after, timedOut, promise⟩ := @Kept.meet _ _ id kept event
    obtain ⟨kept, isPromise⟩ := ih after
    refine ⟨kept, isPromise.trans ?_⟩
    rw [promise, timedOut, List.findSome?_cons]
    cases answer id c.timedOut event <;> simp

end PendingCall

/-! ### All calls -/

namespace CallDispatcher

open PendingCall

variable {d : CallDispatcher ε} {id : Nat} {c : PendingCall ε}

theorem calls_step (isCall : d.calls[id]? = some c) (event : CallEvent ε) :
    (d.step event).calls[id]? = some (c.meet id event) := by
  obtain ⟨lt, rfl⟩ := List.getElem?_eq_some_iff.mp isCall
  unfold step
  split <;> simp [lt, List.getElem?_append_left]

theorem calls_foldl (isCall : d.calls[id]? = some c) (events : List (CallEvent ε)) :
    (events.foldl step d).calls[id]? = some (events.foldl (PendingCall.meet id) c) := by
  induction events generalizing d c with
  | nil => exact isCall
  | cons event events ih => exact ih (calls_step isCall event)

def Tracked (d : CallDispatcher ε) : Prop := ∀ c ∈ d.calls, Kept c

theorem Tracked.step (kept : Tracked d) (event : CallEvent ε) : Tracked (d.step event) := by
  have met : ∀ c ∈ d.calls.mapIdx fun id c => c.meet id event, Kept c := by
    intro c mem
    obtain ⟨id, lt, rfl⟩ := List.mem_mapIdx.mp mem
    exact ((kept _ (List.getElem_mem lt)).meet event).1
  intro c mem
  unfold CallDispatcher.step at mem
  split at mem
  · rcases List.mem_append.mp mem with mem | mem
    · exact met c mem
    · rw [List.mem_singleton.mp mem]
      exact kept_new _ _ _ _
  · exact met c mem

theorem Tracked.run (callTimeoutMs : Nat) (events : List (CallEvent ε)) :
    Tracked (run callTimeoutMs events) :=
  foldl_keeps (fun _ event tracked => tracked.step event) fun _ mem => absurd mem List.not_mem_nil

/-- What the caller of a call receives is the refusal of the transport or the bus, else the first
answer to the call after it was made, however many follow. -/
theorem settles_with_first (callTimeoutMs : Nat) (before rest : List (CallEvent ε))
    (connected : Bool) (call : MethodCall) (invoked : Except ε Unit) :
    let d := run callTimeoutMs before
    let c := PendingCall.new (call.timeoutMs.getD d.callTimeoutMs) connected call invoked
    let id := d.calls.length
    ((run callTimeoutMs (before ++ .call connected call invoked :: rest)).calls[id]?).map promise =
      some (c.promise.or (rest.findSome? (answer id c.timedOut))) := by
  intro d c id
  have isCall : (d.step (.call connected call invoked)).calls[id]? = some c := by
    simp [step, id, c]
  have isRun : run callTimeoutMs (before ++ .call connected call invoked :: rest) =
      rest.foldl step (d.step (.call connected call invoked)) := by
    simp [run, d]
  rw [isRun, calls_foldl isCall, Option.map_some, ((kept_new _ _ _ _).foldl rest).2]

/-- A call whose promise has not settled is pending, with its timer armed; once the calls are
rejected none is pending and every promise has settled. -/
theorem none_hangs (callTimeoutMs : Nat) (events : List (CallEvent ε)) (cause : CallError ε) :
    let d := run callTimeoutMs events
    (∀ c ∈ d.calls, c.promise = none → c.pending ∧ c.armed) ∧
      ∀ c ∈ (d.step (.rejectAll cause)).calls, c.pending = false ∧ c.promise.isSome := by
  intro d
  have kept : Tracked d := Tracked.run callTimeoutMs events
  refine ⟨fun c mem unsettled => ?_, fun c mem => ?_⟩
  · have isKept := kept c mem
    have awaits : c.done = false := by
      by_contra done
      simpa [unsettled] using isKept.settled (eq_true_of_ne_false done)
    simp [isKept.pending, isKept.armed, awaits]
  · obtain ⟨id, lt, rfl⟩ := List.mem_mapIdx.mp mem
    refine ⟨rfl, ?_⟩
    rw [((kept _ (List.getElem_mem lt)).meet _).2.2]
    simp [answer]

end CallDispatcher

/-! ### The delivery of a signal -/

/-- What subscriptions are matched with in a message of type `signal`. -/
structure SignalMessage where
  interface : Option JsString
  member : Option JsString
  path : Option JsString
  sender : Option JsString

def signalMatches (spec : SignalSpec) (message : SignalMessage) : Bool :=
  message.interface = some spec.interface && message.member = some spec.member &&
    spec.path.all (fun path => message.path = some path) &&
      spec.sender.all fun sender => message.sender = some sender

/-- A `dispatch`: the record its loop has come to, and those it has served, the latest first. -/
structure Dispatch where
  transport : DbusTransport
  reached : Nat
  served : List Nat
  ended : Bool

/-- A turn of the loop, or an event before it or while a listener runs. The loop meets the records
that are inserted while it lasts. -/
def Dispatch.step (reconnect : Reconnect) (message : SignalMessage) (d : Dispatch)
    (turn : Option Event) : Dispatch :=
  if d.ended then d
  else match turn with
    | some event => { d with transport := d.transport.step reconnect event }
    | none =>
      match d.transport.signals.subscriptions.find? fun record =>
        d.reached < record.id && signalMatches record.spec message with
      | none => { d with ended := true }
      | some record => { d with reached := record.id, served := record.id :: d.served }

/-- Records are deleted, or one with the next id is inserted. -/
def SignalRegistry.Grows (signals signals' : SignalRegistry) : Prop :=
  signals'.nextSubId = signals.nextSubId ∧
      signals'.subscriptions.Sublist signals.subscriptions ∨
    signals'.nextSubId = signals.nextSubId + 1 ∧ ∃ record, record.id = signals.nextSubId ∧
      signals'.subscriptions = signals.subscriptions ++ [record]

theorem SignalRegistry.Grows.mem {signals signals' : SignalRegistry} {record : SubscriptionRecord}
    (grows : signals.Grows signals') (mem : record ∈ signals'.subscriptions) :
    record ∈ signals.subscriptions ∨
      record.id = signals.nextSubId ∧ signals'.nextSubId = signals.nextSubId + 1 := by
  rcases grows with ⟨-, kept⟩ | ⟨next, record, isNew, inserted⟩
  · exact .inl (kept.subset mem)
  · rcases List.mem_append.mp (inserted ▸ mem) with old | new
    · exact .inl old
    · exact .inr ⟨List.mem_singleton.mp new ▸ isNew, next⟩

namespace Dispatch

open SignalRegistry

variable {reconnect : Reconnect} {t : DbusTransport} {message : SignalMessage}

theorem grows_step (event : Event) : t.signals.Grows (t.step reconnect event).signals := by
  cases event with
  | subscribe spec =>
    obtain ⟨subscriptions, nextSubId, -⟩ := enrol_others t.signals spec
    have inserted : t.signals.Grows (t.signals.enrol spec) := .inr ⟨nextSubId, _, rfl, subscriptions⟩
    simp only [DbusTransport.step, DbusTransport.subscribe]
    split
    · split_ifs <;> exact inserted
    · exact inserted
  | added =>
    simp only [DbusTransport.step, DbusTransport.added]
    split_ifs <;> exact .inl ⟨rfl, .refl _⟩
  | unsubscribe id =>
    simp only [DbusTransport.step, DbusTransport.unsubscribe]
    split
    next rule _ =>
      obtain ⟨subscriptions, nextSubId, -⟩ := retire_others t.signals id rule
      have deleted : t.signals.Grows (t.signals.retire id rule) :=
        .inl ⟨nextSubId, subscriptions ▸ List.filter_sublist⟩
      split
      · split_ifs <;> exact deleted
      · exact deleted
    next => exact .inl ⟨rfl, .refl _⟩
  | removed =>
    simp only [DbusTransport.step, DbusTransport.removed]
    split_ifs <;> exact .inl ⟨rfl, .refl _⟩
  | _ =>
    rw [Quiet.signals_step]
    · exact .inl ⟨rfl, .refl _⟩
    · rfl

/-- How a dispatch has gone on since it had served `served`. -/
structure Serves (message : SignalMessage) (since : SignalRegistry) (served : List Nat)
    (d : Dispatch) : Prop where
  inOrder : d.transport.signals.subscriptions.Pairwise fun first second => first.id < second.id
  below : ∀ record ∈ d.transport.signals.subscriptions, record.id < d.transport.signals.nextSubId
  reached : d.reached < d.transport.signals.nextSubId
  later : since.nextSubId ≤ d.transport.signals.nextSubId
  old : ∀ record ∈ d.transport.signals.subscriptions, record.id < since.nextSubId →
    record ∈ since.subscriptions
  sorted : d.served.Pairwise (· > ·)
  within : ∀ id ∈ d.served, id ≤ d.reached
  rightly : ∀ id ∈ d.served, id ∈ served ∨ ∃ record, record.id = id ∧
    signalMatches record.spec message ∧ (id < since.nextSubId → record ∈ since.subscriptions)
  all : ∀ record ∈ d.transport.signals.subscriptions, signalMatches record.spec message →
    record.id ≤ d.reached ∨ d.ended → record.id ∈ d.served

variable {since : SignalRegistry} {served : List Nat} {d : Dispatch}

theorem Serves.meet (serves : Serves message since served d) (ended : d.ended = false)
    {t : DbusTransport} (grows : d.transport.signals.Grows t.signals) :
    Serves message since served { d with transport := t } := by
  have reached := serves.reached
  have later := serves.later
  have next : d.transport.signals.nextSubId ≤ t.signals.nextSubId := by
    rcases grows with ⟨same, -⟩ | ⟨next, -⟩ <;> omega
  refine { serves with
    inOrder := ?_
    below := fun record mem => ?_
    reached := Nat.lt_of_lt_of_le reached next
    later := Nat.le_trans later next
    old := fun record mem isOld => ?_
    all := fun record mem isMatch met => ?_ }
  · rcases grows with ⟨-, kept⟩ | ⟨-, record, isNew, inserted⟩
    · exact serves.inOrder.sublist kept
    · rw [inserted, List.pairwise_append]
      refine ⟨serves.inOrder, List.pairwise_singleton _ _, fun old isOld new isLast => ?_⟩
      rw [List.mem_singleton.mp isLast, isNew]
      exact serves.below old isOld
  · rcases grows.mem mem with known | ⟨isNew, inserted⟩
    · exact Nat.lt_of_lt_of_le (serves.below record known) next
    · change record.id < t.signals.nextSubId
      omega
  · rcases grows.mem mem with known | ⟨isNew, -⟩
    · exact serves.old record known isOld
    · omega
  · rcases grows.mem mem with known | ⟨isNew, -⟩
    · exact serves.all record known isMatch met
    · simp only [ended, Bool.false_eq_true, or_false] at met
      omega

theorem Serves.step (serves : Serves message since served d) (turn : Option Event) :
    Serves message since served (d.step reconnect message turn) := by
  unfold Dispatch.step
  split_ifs with ended
  · exact serves
  · cases turn with
    | some event => exact serves.meet (eq_false_of_ne_true ended) (grows_step event)
    | none =>
      dsimp only
      split
      next notFound =>
        refine { serves with all := fun record mem isMatch _ => ?_ }
        have none := List.find?_eq_none.mp notFound record mem
        exact serves.all record mem isMatch (.inl (by simpa [isMatch] using none))
      next record found =>
        obtain ⟨isNext, before, after, split, earlier⟩ := List.find?_eq_some_iff_append.mp found
        simp only [Bool.and_eq_true, decide_eq_true_eq] at isNext
        have mem : record ∈ d.transport.signals.subscriptions := by simp [split]
        refine { serves with
          reached := serves.below record mem
          sorted := List.pairwise_cons.mpr
            ⟨fun id isServed => Nat.lt_of_le_of_lt (serves.within id isServed) isNext.1, serves.sorted⟩
          within := ?_
          rightly := ?_
          all := fun other isOther isMatch met => ?_ }
        · rintro id (_ | ⟨_, isServed⟩)
          · exact Nat.le_refl _
          · exact Nat.le_trans (serves.within id isServed) (Nat.le_of_lt isNext.1)
        · rintro id (_ | ⟨_, isServed⟩)
          · exact .inr ⟨record, rfl, isNext.2, serves.old record mem⟩
          · exact serves.rightly id isServed
        · have within : other.id ≤ record.id := met.resolve_right ended
          by_cases reached : other.id ≤ d.reached
          · exact List.mem_cons_of_mem _ (serves.all other isOther isMatch (.inl reached))
          · have inOrder := serves.inOrder
            rw [split] at isOther inOrder
            rcases List.mem_append.mp isOther with isBefore | isAfter
            · exact absurd (earlier other isBefore) (by simp [isMatch, Nat.lt_of_not_le reached])
            · rcases List.mem_cons.mp isAfter with rfl | isAfter
              · exact List.mem_cons_self
              · have beyond := (List.pairwise_cons.mp (List.pairwise_append.mp inOrder).2.1).1
                exact absurd (beyond other isAfter) (Nat.not_lt_of_le within)

end Dispatch

end ModemStack.Transport
