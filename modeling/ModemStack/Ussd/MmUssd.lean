import ModemStack.Backend.ModemActor
import ModemStack.Ussd.Session

/-!
The ModemManager USSD adapter, over the shared actor.

An event is a verb (with the stable key its modem resolves to at that moment), an idle timer
that runs out, the turn the actor gives a task, or the answer to what a task awaits. Work of
other components on the actor runs alongside. A rejected state read, and one without a number,
are read as unknown; the registration read never rejects.
-/

namespace ModemStack.Ussd

open ModemStack.Async ModemStack.Backend ModemStack.Text

/-- An operator's verb, and the call of `Modem3gpp.Ussd` that it makes. -/
inductive UssdVerb where
  | initiate (ussdCommand : JsString)
  | respond (ussdResponse : JsString)
  | cancel
deriving DecidableEq

def UssdVerb.event : UssdVerb → UssdSessionEvent
  | .initiate _ => .initiate
  | .respond _ => .respond
  | .cancel => .cancel

/-- Where the session stands while the verb is under way. -/
def UssdVerb.dispatched : UssdVerb → UssdSessionSnapshot
  | .initiate _ => openAt .initiating UssdSessionState.initiating_ne_closed
  | .respond _ => openAt .responding UssdSessionState.responding_ne_closed
  | .cancel => openAt .cancelling UssdSessionState.cancelling_ne_closed

structure UssdVerbResult where
  ok : Bool
  snapshot : UssdSessionSnapshot
  ussdReply : Option JsString
  refusal : Option UssdRefusalReason
deriving DecidableEq

namespace MmUssd

/-- What a task of the actor does. An expiry keeps, for the proofs, how many verbs had settled
successfully when its timer was armed. -/
inductive Job where
  | verb (verb : UssdVerb)
  | expire (armed : Nat)
deriving DecidableEq

/-- What a task awaits: its turn in the actor, the reply to its call, the state read (with the
reply of the network), the registration read of `#fail` (with the error), or nothing. -/
inductive Awaits (ε : Type) where
  | turn
  | reply
  | state (ussdReply : JsString)
  | registration (error : ε)
  | nothing

structure Task (ε : Type) where
  stableKey : JsString
  modem : JsString
  job : Job
  awaits : Awaits ε

/-- The handle of an idle timer stays in the table after it has fired. -/
structure Timer where
  modem : JsString
  fired : Bool
  armed : Nat

inductive Event (ε : Type) where
  | verb (stableKey modem : JsString) (verb : UssdVerb)
  | fire (stableKey : JsString)
  | turn (id : Nat)
  | reply (id : Nat) (reply : Reply ε)
  | registered (id : Nat) (facts : UssdRegistrationFacts)
  | actor (event : ModemActor.Event ε (Option UssdVerbResult))
  | stop

end MmUssd

/-- The sessions and timers by stable key, the actor and the adapter's tasks by their numbers in
it. A task that is no verb resolves with `none`. Kept for the proofs: the calls made on the bus,
the newest first, and how many verbs of each key have settled successfully. -/
structure MmUssd (ε : Type) where
  actor : ModemActor ε (Option UssdVerbResult)
  sessions : JsString → Option UssdSessionSnapshot
  timers : JsString → Option MmUssd.Timer
  tasks : Nat → Option (MmUssd.Task ε)
  dialled : List (JsString × UssdVerb)
  successes : JsString → Nat

namespace MmUssd

variable {ε : Type}

def new : MmUssd ε where
  actor := .new
  sessions _ := none
  timers _ := none
  tasks _ := none
  dialled := []
  successes _ := 0

def snapshot (u : MmUssd ε) (stableKey : JsString) : UssdSessionSnapshot :=
  (u.sessions stableKey).getD IDLE_SESSION

def clearTimer (u : MmUssd ε) (stableKey : JsString) : MmUssd ε :=
  { u with timers := Function.update u.timers stableKey none }

/-- A session that is closed is stored as idle: it has no entry. -/
def store (u : MmUssd ε) (stableKey : JsString) (snapshot : UssdSessionSnapshot) : MmUssd ε :=
  let stored := if snapshot.state = .closed then none else some snapshot
  { u.clearTimer stableKey with sessions := Function.update u.sessions stableKey stored }

def gate (u : MmUssd ε) (stableKey : JsString) (event : UssdSessionEvent) :
    Except UssdVerbResult (MmUssd ε) :=
  match reduceUssdSession (u.snapshot stableKey) event with
  | .error refusal => .error ⟨false, u.snapshot stableKey, none, some refusal⟩
  | .ok snapshot => .ok (u.store stableKey snapshot)

def settle (u : MmUssd ε) (stableKey : JsString) (event : UssdSessionEvent) :
    MmUssd ε × UssdVerbResult :=
  match reduceUssdSession (u.snapshot stableKey) event with
  | .error refusal => (u, ⟨false, u.snapshot stableKey, none, some refusal⟩)
  | .ok snapshot =>
    (u.store stableKey snapshot, ⟨snapshot.refusal.isNone, snapshot, none, snapshot.refusal⟩)

def armIdleTimeout (u : MmUssd ε) (stableKey modem : JsString) : MmUssd ε :=
  let timer : Timer := ⟨modem, false, u.successes stableKey⟩
  { u.clearTimer stableKey with
    timers := Function.update (u.clearTimer stableKey).timers stableKey (some timer) }

/-- `callInitiate`, `callRespond` or `callCancel`, to its await. -/
def dial (u : MmUssd ε) (stableKey : JsString) (call : UssdVerb) : MmUssd ε :=
  { u with dialled := (stableKey, call) :: u.dialled }

/-- A verb whose outcome is a success is counted. -/
def count (u : MmUssd ε) (stableKey : JsString) (result : UssdVerbResult) : MmUssd ε :=
  if result.ok then
    { u with successes := Function.update u.successes stableKey (u.successes stableKey + 1) }
  else u

def await (u : MmUssd ε) (id : Nat) (task : Task ε) (awaits : Awaits ε) : MmUssd ε :=
  { u with tasks := Function.update u.tasks id (some { task with awaits }) }

/-- The task resolves. -/
def finish (u : MmUssd ε) (id : Nat) (task : Task ε) (result : Option UssdVerbResult) :
    MmUssd ε :=
  let u := u.await id task .nothing
  { u with actor := u.actor.resume id (.task (.ok result)) }

/-- A task chained in the actor. -/
def submit (u : MmUssd ε) (stableKey modem : JsString) (job : Job) : MmUssd ε where
  actor := u.actor.enqueue stableKey false
  sessions := u.sessions
  timers := u.timers
  tasks := Function.update u.tasks u.actor.submitted (some ⟨stableKey, modem, job, .turn⟩)
  dialled := u.dialled
  successes := u.successes

/-- The idle timer of a key runs out. -/
def fire (u : MmUssd ε) (stableKey : JsString) : MmUssd ε :=
  match u.timers stableKey with
  | none => u
  | some timer =>
    if timer.fired then u
    else
      { u.submit stableKey timer.modem (.expire timer.armed) with
        timers := Function.update u.timers stableKey (some { timer with fired := true }) }

/-- The actor calls the task, which goes on to its first await. -/
def turn (u : MmUssd ε) (id : Nat) : MmUssd ε :=
  match u.tasks id with
  | none => u
  | some task =>
    match task.awaits with
    | .turn =>
      if u.actor.tails.Ready id then
        let u := { u with actor := u.actor.resume id .priorSettled }
        match task.job with
        | .verb verb =>
          match u.gate task.stableKey verb.event with
          | .error result => u.finish id task (some result)
          | .ok u => (u.dial task.stableKey verb).await id task .reply
        | .expire _ =>
          if (u.sessions task.stableKey).isNone then u.finish id task none
          else
            ((u.settle task.stableKey .timeout).1.dial task.stableKey .cancel).await id task
              .reply
      else u
    | _ => u

/-- The reply to the call, or to the state read, of a task. -/
def reply (u : MmUssd ε) (id : Nat) (reply : Reply ε) : MmUssd ε :=
  match u.tasks id with
  | none => u
  | some task =>
    match task.awaits, task.job with
    | .reply, .expire _ => u.finish id task none
    | .reply, .verb .cancel =>
      match reply with
      | .ok _ =>
        let (u, result) := u.settle task.stableKey .cancelled
        (u.count task.stableKey result).finish id task (some result)
      | .error error => u.await id task (.registration error)
    | .reply, .verb _ =>
      match reply with
      | .ok body => u.await id task (.state (firstString body))
      | .error error => u.await id task (.registration error)
    | .state ussdReply, _ =>
      let sessionState := decodeRepliedState (readUssdState reply)
      let (u, settled) := u.settle task.stableKey (.replied sessionState)
      let u := u.count task.stableKey settled
      let u :=
        if sessionState ≠ .released then u.armIdleTimeout task.stableKey task.modem else u
      u.finish id task (some { settled with ussdReply := some ussdReply })
    | _, _ => u

/-- `#fail`, once the registration has been read. -/
def registered (classifyUssdFailure : ε → UssdRegistrationFacts → UssdRefusalReason)
    (u : MmUssd ε) (id : Nat) (facts : UssdRegistrationFacts) : MmUssd ε :=
  match u.tasks id with
  | none => u
  | some task =>
    match task.awaits with
    | .registration error =>
      let (u, result) := u.settle task.stableKey (.failed (classifyUssdFailure error facts))
      (u.count task.stableKey result).finish id task (some result)
    | _ => u

/-- What other components do on the actor; the adapter's own tasks are not theirs to resume. -/
def onActor (u : MmUssd ε) (event : ModemActor.Event ε (Option UssdVerbResult)) : MmUssd ε :=
  match event with
  | .resume id answer =>
    if (u.tasks id).isSome then u else { u with actor := u.actor.step (.resume id answer) }
  | event => { u with actor := u.actor.step event }

/-- Drop every timer. -/
def stop (u : MmUssd ε) : MmUssd ε := { u with timers := fun _ => none }

def step (classifyUssdFailure : ε → UssdRegistrationFacts → UssdRefusalReason) (u : MmUssd ε) :
    Event ε → MmUssd ε
  | .verb stableKey modem verb => u.submit stableKey modem (.verb verb)
  | .fire stableKey => u.fire stableKey
  | .turn id => u.turn id
  | .reply id reply => u.reply id reply
  | .registered id facts => u.registered classifyUssdFailure id facts
  | .actor event => u.onActor event
  | .stop => u.stop

def run (classifyUssdFailure : ε → UssdRegistrationFacts → UssdRefusalReason)
    (events : List (Event ε)) : MmUssd ε :=
  events.foldl (step classifyUssdFailure) new

end MmUssd

end ModemStack.Ussd
