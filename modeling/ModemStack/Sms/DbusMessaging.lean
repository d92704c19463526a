import ModemStack.Sms.Inbox

/-!
The ModemManager Messaging adapter: wiring, `Added` and `Deleted`, the reads they start and the
listings of a resync, beside the modem and the bus.

An event is something the modem or the bus does, the answer to a call, or the turn in which a
function goes on with its answer. Every read, listing and delivered `Deleted` is numbered by a
clock; `applied` tells which of them was last applied to the row of a path.
-/

namespace ModemStack.Sms

open ModemStack.Data ModemStack.Text

/-- What the port is constructed with, and when a timestamp lies. -/
structure SmsPort where
  cap : Nat
  smsTimestampEpoch : JsString → WithBot Int

inductive Signal where
  | added (path : Nat)
  | deleted (path : Nat)
deriving DecidableEq

def Signal.path : Signal → Nat
  | .added path | .deleted path => path

/-- The subscriptions in place. After the second one the wiring resyncs. -/
inductive Wiring where
  | subscribing
  | added
  | wired
deriving DecidableEq

/-- What a call awaits: nothing yet (`none`), or its reply, a rejection being `some none`. -/
abbrev Reply (α : Type) := Option (Option α)

/-- A function that awaits a call: `onAdded`, or `resync` in `List` or in the read of a path,
with the paths left and the messages it has read. -/
inductive Task where
  | read (path : Nat) (reply : Reply SmsProps)
  | listing (reply : Reply (List Nat))
  | listed (path : Nat) (reply : Reply SmsProps) (rest : List Nat) (messages : List SmsMessage)

/-- The call is answered, if it was not. -/
def Task.answer (task : Task) (paths : Option (List Nat)) (props : Nat → Option SmsProps) : Task :=
  match task with
  | .read path none => .read path (some (props path))
  | .listing none => .listing (some paths)
  | .listed path none rest messages => .listed path (some (props path)) rest messages
  | task => task

def Task.reject (task : Task) : Task := task.answer none fun _ => none

/-- The messages on the modem; the bus, with the signals in flight; the adapter; and the store
its events are folded into. -/
structure Inbox where
  modem : OrderedMap Nat SmsProps
  connected : Bool
  signals : List Signal
  wiring : Wiring
  tasks : Nat → Option Task
  clock : Nat
  applied : Nat → Nat
  store : SmsInboxStore

namespace Inbox

inductive Event where
  | put (path : Nat) (props : SmsProps)
  | remove (path : Nat)
  | drop
  | reconnected
  | subscribed
  | deliver
  | answer (id : Nat)
  | reject (id : Nat)
  | resume (id : Nat)

/-- An observer is there and the first subscription is under way. What the modem holds by then
it has been given unheard. -/
def new : Inbox where
  modem := .empty
  connected := true
  signals := []
  wiring := .subscribing
  tasks _ := none
  clock := 1
  applied _ := 0
  store := .new

/-- The bus is up and the signal subscribed to. -/
def hears (s : Inbox) : Signal → Bool
  | .added _ => s.connected && s.wiring ≠ .subscribing
  | .deleted _ => s.connected && s.wiring = .wired

def send (s : Inbox) (signal : Signal) : Inbox :=
  if s.hears signal then { s with signals := s.signals ++ [signal] } else s

/-- A call, rejected at once when the bus is down. -/
def call (s : Inbox) {α : Type} : Reply α := if s.connected then none else some none

def start (s : Inbox) (task : Task) : Inbox :=
  { s with tasks := Function.update s.tasks s.clock (some task), clock := s.clock + 1 }

def resync (s : Inbox) : Inbox := s.start (.listing s.call)

/-- Whether an event is about the row of a path. -/
def concerns (path : Nat) : SmsInboxEvent → Bool
  | .added message => message.id = path
  | .deleted id => id = path
  | .resynced _ => true

/-- The store folds an event that what began at `id` has emitted. -/
def emit (s : Inbox) (id : Nat) (event : SmsInboxEvent) : Inbox :=
  { s with
    store := (s.store.apply event).1
    applied := fun path => if concerns path event then max (s.applied path) id else s.applied path }

/-- The `Added` and `Deleted` handlers, to their first await. -/
def onSignal (s : Inbox) : Signal → Inbox
  | .added path => s.start (.read path s.call)
  | .deleted path => { s.emit s.clock (.deleted path) with clock := s.clock + 1 }

/-- The loop over the candidates of a listing: the event at its end, or the task that goes on. -/
def readNext (port : SmsPort) (s : Inbox) (messages : List SmsMessage) :
    List Nat → Option SmsInboxEvent × Option Task
  | [] => (some (.resynced (sortAndCapSms port.smsTimestampEpoch messages port.cap)), none)
  | path :: rest => (none, some (.listed path s.call rest messages))

/-- What a task does once its call has been answered: the event it emits, how it goes on. -/
def turn (port : SmsPort) (s : Inbox) : Task → Option SmsInboxEvent × Option Task
  | .read path (some (some props)) => (some (.added (smsFromProps path props)), none)
  -- A message that has vanished is skipped.
  | .read _ (some none) => (none, none)
  -- A refused `List` emits nothing.
  | .listing (some none) => (none, none)
  | .listing (some (some paths)) => s.readNext port [] (selectReadablePaths paths port.cap)
  | .listed path (some props) rest messages =>
    s.readNext port (messages ++ (props.map (smsFromProps path)).toList) rest
  | task => (none, some task)

def resume (port : SmsPort) (s : Inbox) (id : Nat) (task : Task) : Inbox :=
  let s' := { s with tasks := Function.update s.tasks id (s.turn port task).2 }
  match (s.turn port task).1 with
  | none => s'
  | some event => s'.emit id event

def step (port : SmsPort) (s : Inbox) : Event → Inbox
  | .put path props => { s with modem := s.modem.set path props }.send (.added path)
  | .remove path => { s with modem := s.modem.filter (· ≠ path) }.send (.deleted path)
  | .drop => { s with
      connected := false
      signals := []
      tasks := fun id => (s.tasks id).map Task.reject }
  | .reconnected =>
    if s.wiring = .wired then { s with connected := true }.resync else { s with connected := true }
  | .subscribed =>
    match s.wiring with
    | .subscribing => { s with wiring := .added }
    | .added => { s with wiring := .wired }.resync
    | .wired => s
  | .deliver =>
    match s.signals with
    | [] => s
    | signal :: signals => { s with signals }.onSignal signal
  | .answer id =>
    if s.connected then
      { s with tasks := Function.update s.tasks id ((s.tasks id).map fun task =>
          task.answer (some s.modem.keys) s.modem.get) }
    else s
  | .reject id => { s with tasks := Function.update s.tasks id ((s.tasks id).map Task.reject) }
  | .resume id =>
    match s.tasks id with
    | none => s
    | some task => s.resume port id task

def run (port : SmsPort) (events : List Event) : Inbox := events.foldl (step port) new

end Inbox

end ModemStack.Sms
