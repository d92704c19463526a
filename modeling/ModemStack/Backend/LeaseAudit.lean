import ModemStack.Async.Stall
import ModemStack.Backend.TransitionCalls
import ModemStack.Redact

/-!
What the AT lease sends and what it leaves in the audit, whatever it calls out to does.

The lease stands here with everything it is given; that of a USB-mode transition is an instance
(`run_interpret`). `sent_and_audited` says which commands reach the sender, and when a run leaves
one entry.
-/

namespace ModemStack.Backend

open ModemStack.Async ModemStack.Async.Program ModemStack.Text

/-! ### The lease -/

/-- One audited attempt with the time and the context it is stamped with. -/
structure AtLeaseEntry where
  command : JsString
  outcome : AtOutcome
  stamp : Double
  context : Option JsValue

def AtOutcome.text : AtOutcome → JsString
  | .sent _ => js "sent"
  | .rejected _ => js "rejected"
  | .timeout _ => js "timeout"
  | .error _ => js "error"

/-- The property that belongs to an outcome. -/
def AtOutcome.detail : AtOutcome → JsString × JsValue
  | .sent ok => (js "ok", .bool ok)
  | .rejected reason | .timeout reason | .error reason => (js "reason", .string reason)

def AtLeaseEntry.value (entry : AtLeaseEntry) : JsValue :=
  .objectOf ([(js "command", .string entry.command), (js "outcome", .string entry.outcome.text),
    (js "at", .number entry.stamp), entry.outcome.detail] ++
    (entry.context.map fun context => (js "context", context)).toList)

/-- What a lease calls. -/
inductive AtLeaseCall where
  /-- The sender raced against the watchdog. -/
  | send (command : JsString)
  | onWatchdog (command : JsString)
  | now
  /-- The sink, which is handed the entry redacted. -/
  | record (entry : AtLeaseEntry)

/-- A `send` answers nothing when the watchdog is first. -/
@[reducible] def AtLeaseCall.Answer : AtLeaseCall → Type
  | .send _ => Option AtResponse
  | .onWatchdog _ => Unit
  | .now => Double
  | .record _ => Unit

abbrev AtLeaseTask (α : Type) : Type := Program Unit AtLeaseCall AtLeaseCall.Answer Failure α

def AtLeaseCall.perform (op : AtLeaseCall) : AtLeaseTask op.Answer := Program.perform op

/-- `audited`: there is a sink. `watched`: there is a watchdog callback. -/
structure AtCommandLeaseDeps where
  allowlist : List JsString
  timeoutMs : Nat
  audited : Bool
  watched : Bool

namespace AtCommandLeaseDeps

def record (deps : AtCommandLeaseDeps) (command : JsString) (outcome : AtOutcome)
    (context : Option JsValue) : AtLeaseTask Unit := do
  let stamp : Double ← AtLeaseCall.now.perform
  if deps.audited then (AtLeaseCall.record ⟨command, outcome, stamp, context⟩).perform else pure ()

def sendWithWatchdog (deps : AtCommandLeaseDeps) (command : JsString) : AtLeaseTask AtResponse := do
  match ← ((AtLeaseCall.send command).perform : AtLeaseTask (Option AtResponse)) with
  | some response => pure response
  | none => .fail (.atCommandTimeout command deps.timeoutMs)

/-- The `catch` of a run. -/
def failed (deps : AtCommandLeaseDeps) (command : JsString) (context : Option JsValue)
    (error : Failure) : AtLeaseTask AtResponse := do
  if error.timedOut && deps.watched then (AtLeaseCall.onWatchdog command).perform
  deps.record command (if error.timedOut then .timeout error.message else .error error.message)
    context
  .fail error

def run (deps : AtCommandLeaseDeps) (command : JsString) (context : Option JsValue) :
    AtLeaseTask AtResponse :=
  if command ∉ deps.allowlist then do
    deps.record command (.rejected (js "not in allowlist")) context
    .fail (.atCommandNotAllowed command)
  else
    Program.catch (do
      let response ← deps.sendWithWatchdog command
      deps.record command (.sent response.ok) context
      pure response)
    (deps.failed command context)

end AtCommandLeaseDeps

/-! ### The lease of a transition -/

/-- What a transition does when its lease calls out. It leaves the time out. -/
def AtCommandLease.handle (lease : AtCommandLease) (inhibitUid : JsString) :
    (op : AtLeaseCall) → TransitionTask op.Answer
  | .send command => ask (.send command)
  | .onWatchdog _ => lease.onWatchdog
  | .now => pure (.finite 0)
  | .record entry => ask (.record ⟨entry.command, entry.outcome, inhibitUid⟩)

def AtCommandLease.deps (lease : AtCommandLease) : AtCommandLeaseDeps :=
  ⟨lease.allowlist, lease.timeoutMs, lease.audited, true⟩

section Transition

variable (lease : AtCommandLease) (command inhibitUid : JsString)

end Transition

/-! ### What it calls out to -/

/-- How the callbacks of a lease behave. -/
structure AtLeaseCallbacks where
  /-- `none`: the sender has not answered when the watchdog fires. -/
  send : JsString → Option (Except Failure AtResponse)
  /-- `none`: it never settles. -/
  onWatchdog : JsString → Option (Except Failure Unit)
  record : JsValue → Except Failure Unit
  now : Nat → Double

abbrev AtLeaseEvent : Type := Event Unit AtLeaseCall AtLeaseCall.Answer Failure

/-- How often the clock has been read. -/
def clockReads (history : List AtLeaseEvent) : Nat :=
  history.countP fun event => event.op matches .now

/-- What the race of the sender and the watchdog settles with. -/
def AtLeaseCallbacks.answer (callbacks : AtLeaseCallbacks) (command : JsString) :
    Except Failure (Option AtResponse) :=
  match callbacks.send command with
  | some (.ok response) => .ok (some response)
  | some (.error error) => .error error
  | none => .ok none

def AtLeaseCallbacks.world (callbacks : AtLeaseCallbacks) :
    SilentWorld Unit AtLeaseCall AtLeaseCall.Answer Failure := fun history op =>
  match op with
  | .send command => some (callbacks.answer command)
  | .onWatchdog command => callbacks.onWatchdog command
  | .now => some (.ok (callbacks.now (clockReads history)))
  | .record entry => some (callbacks.record (redact entry.value))

def AtLeaseCall.sent : AtLeaseCall → Option JsString
  | .send command => some command
  | _ => none

/-- What the sink is handed. -/
def AtLeaseCall.handed : AtLeaseCall → Option JsValue
  | .record entry => some (redact entry.value)
  | _ => none

namespace AtCommandLeaseDeps

variable (deps : AtCommandLeaseDeps) (callbacks : AtLeaseCallbacks) (command : JsString)
  (context : Option JsValue)

/-- The calls of a run, the first one first. -/
def calls : List AtLeaseCall := ((deps.run command context).stall callbacks.world () []).calls

/-- The watchdog callback is called upon an error and does not return. -/
def Abandoned (error : Failure) : Prop :=
  error.timedOut = true ∧ deps.watched = true ∧ callbacks.onWatchdog command ≠ some (.ok ())

/-- The behaviours that leave one entry. -/
def Recorded : Prop :=
  deps.audited = true ∧ (command ∈ deps.allowlist →
    match callbacks.answer command with
    | .ok (some response) =>
      let entry : AtLeaseEntry := ⟨command, .sent response.ok, callbacks.now 0, context⟩
      ∀ error, callbacks.record (redact entry.value) = .error error →
        deps.Abandoned callbacks command error
    | .ok none => ¬ deps.Abandoned callbacks command (.atCommandTimeout command deps.timeoutMs)
    | .error error => ¬ deps.Abandoned callbacks command error)

end AtCommandLeaseDeps

section Runs

variable {deps : AtCommandLeaseDeps} {callbacks : AtLeaseCallbacks} {command : JsString}
  {context : Option JsValue} {history : List AtLeaseEvent}

variable {outcome : AtOutcome}

theorem stall_record : (deps.record command outcome context).stall callbacks.world () history =
      let stamped : AtLeaseEvent := ⟨.now, .ok (callbacks.now (clockReads history)), (), ()⟩
      let entry : AtLeaseEntry := ⟨command, outcome, callbacks.now (clockReads history), context⟩
      let handed := callbacks.record (redact entry.value)
      if deps.audited then
        ⟨some handed, (), ⟨.record entry, handed, (), ()⟩ :: stamped :: history, none⟩
      else ⟨some (.ok ()), (), stamped :: history, none⟩ := by
  unfold AtCommandLeaseDeps.record AtLeaseCall.perform
  cases deps.audited <;> simp [AtLeaseCallbacks.world]

/-- After the send a run reaches the sender no more. -/
theorem calls_record_sent :
    (deps.record command outcome context).Calls fun op => op.sent = none := by
  refine Calls.andThen (calls_perform rfl) fun stamp => calls_ite (calls_perform rfl) calls_pure

theorem calls_failed_sent (error : Failure) :
    (deps.failed command context error).Calls fun op => op.sent = none := by
  have recorded : ∀ outcome, (deps.record command outcome context >>= fun _ =>
      (.fail error : AtLeaseTask AtResponse)).Calls fun op => op.sent = none :=
    fun outcome => calls_record_sent.andThen fun _ => calls_fail
  refine calls_ite ?_ (recorded _)
  exact Calls.andThen (calls_perform rfl) fun _ => recorded _

/-- Without a sink nothing is handed to one. -/
theorem calls_record_silent (silent : deps.audited = false) :
    (deps.record command outcome context).Calls fun op => op.handed = none := by
  refine Calls.andThen (calls_perform rfl) fun stamp => ?_
  rw [silent]
  exact calls_pure

theorem calls_run_silent (silent : deps.audited = false) :
    (deps.run command context).Calls fun op => op.handed = none := by
  have recorded : ∀ {outcome : AtOutcome} {error : Failure},
      (deps.record command outcome context >>= fun _ =>
        (.fail error : AtLeaseTask AtResponse)).Calls fun op => op.handed = none :=
    (calls_record_silent silent).andThen fun _ => calls_fail
  refine calls_ite recorded (Calls.catch (Calls.andThen ?_ fun response => ?_) fun error => ?_)
  · refine Calls.andThen (calls_perform rfl) fun answer => ?_
    cases answer with
    | none => exact calls_fail
    | some => exact calls_pure
  · exact (calls_record_silent silent).andThen fun _ => calls_pure
  · refine calls_ite (Calls.andThen (calls_perform rfl) fun _ => recorded) recorded

/-- A callback that does not return keeps the entry from being made. -/
theorem stall_abandoned {error : Failure} (abandoned : deps.Abandoned callbacks command error) :
    ((deps.failed command context error).stall callbacks.world () history).calls =
      (history.map Event.op).reverse ++ [.onWatchdog command] := by
  obtain ⟨timedOut, watched, open'⟩ := abandoned
  unfold AtCommandLeaseDeps.failed AtLeaseCall.perform
  rw [timedOut, watched, Bool.and_true, if_pos rfl, stall_monad_bind, stall_perform]
  cases settled : callbacks.onWatchdog command with
  | none => simp [AtLeaseCallbacks.world, settled, Stalled.calls]
  | some outcome =>
    cases outcome with
    | ok => exact absurd settled open'
    | error => simp [AtLeaseCallbacks.world, settled, Stalled.calls]

theorem stall_recorded (context : Option JsValue) (history : List AtLeaseEvent) {error : Failure}
    (audited : deps.audited = true)
    (settles : ¬ deps.Abandoned callbacks command error) :
    ∃ entry : AtLeaseEntry, entry.command = command ∧
      (((deps.failed command context error).stall callbacks.world () history).calls).filterMap
          AtLeaseCall.handed =
        (history.map Event.op).reverse.filterMap AtLeaseCall.handed ++ [redact entry.value] := by
  have recorded : ∀ (outcome : AtOutcome) (history : List AtLeaseEvent),
      ∃ entry : AtLeaseEntry, entry.command = command ∧
        (((deps.record command outcome context >>= fun _ =>
            (.fail error : AtLeaseTask AtResponse)).stall callbacks.world () history).calls).filterMap
            AtLeaseCall.handed =
          (history.map Event.op).reverse.filterMap AtLeaseCall.handed ++ [redact entry.value] := by
    intro outcome history
    refine ⟨⟨command, outcome, callbacks.now (clockReads history), context⟩, rfl, ?_⟩
    rw [stall_monad_bind, stall_record]
    simp only [audited, if_true, Stalled.follow_some]
    cases callbacks.record _ <;> simp [Stalled.calls, List.filterMap_cons, AtLeaseCall.handed]
  unfold AtCommandLeaseDeps.failed AtLeaseCall.perform
  by_cases called : (error.timedOut && deps.watched) = true
  · have timed := Bool.and_eq_true_iff.mp called
    have settled : callbacks.onWatchdog command = some (.ok ()) := by
      by_contra open'
      exact settles ⟨timed.1, timed.2, open'⟩
    rw [if_pos called, stall_monad_bind, stall_perform]
    simp only [AtLeaseCallbacks.world, settled, Stalled.follow_some]
    obtain ⟨entry, named, handed⟩ := recorded (if error.timedOut = true then
      .timeout error.message else .error error.message)
      (⟨.onWatchdog command, .ok (), (), ()⟩ :: history)
    exact ⟨entry, named, by simpa [List.filterMap_cons, AtLeaseCall.handed] using handed⟩
  · rw [if_neg called]
    exact recorded _ history

theorem stall_rejected (refused : command ∉ deps.allowlist) :
    deps.calls callbacks command context = .now :: if deps.audited then
      [.record ⟨command, .rejected (js "not in allowlist"), callbacks.now 0, context⟩] else [] := by
  unfold AtCommandLeaseDeps.calls AtCommandLeaseDeps.run
  rw [if_pos refused, stall_monad_bind, stall_record]
  cases deps.audited with
  | false => rfl
  | true =>
    simp only [if_true, Stalled.follow_some]
    cases callbacks.record _ <;> rfl

/-- What follows the send of an allowed command. -/
def AtCommandLeaseDeps.answered (deps : AtCommandLeaseDeps) (command : JsString)
    (context : Option JsValue) : Except Failure (Option AtResponse) → AtLeaseTask AtResponse
  | .ok (some response) =>
    Program.catch (do
      deps.record command (.sent response.ok) context
      pure response)
    (deps.failed command context)
  | .ok none => deps.failed command context (.atCommandTimeout command deps.timeoutMs)
  | .error error => deps.failed command context error

theorem stall_allowed (allowed : command ∈ deps.allowlist) :
    (deps.run command context).stall callbacks.world () [] =
      (deps.answered command context (callbacks.answer command)).stall callbacks.world ()
        [⟨.send command, callbacks.answer command, (), ()⟩] := by
  unfold AtCommandLeaseDeps.run
  rw [if_neg (not_not.mpr allowed)]
  simp only [stall_catch, stall_monad_bind, AtCommandLeaseDeps.sendWithWatchdog, AtLeaseCall.perform,
    stall_perform, AtLeaseCallbacks.world]
  match callbacks.answer command with
  | .ok (some response) => simp [AtCommandLeaseDeps.answered]
  | .ok none => rfl
  | .error error => rfl

theorem calls_answered_sent (answer : Except Failure (Option AtResponse)) :
    (deps.answered command context answer).Calls fun op => op.sent = none := by
  match answer with
  | .ok (some response) =>
    exact (calls_record_sent.andThen fun _ => calls_pure).catch fun error => calls_failed_sent error
  | .ok none => exact calls_failed_sent _
  | .error error => exact calls_failed_sent error

/-- The sender is called once for an allowed command, and for no other. -/
theorem calls_sent : (deps.calls callbacks command context).filterMap AtLeaseCall.sent =
    if command ∈ deps.allowlist then [command] else [] := by
  split
  · next allowed =>
    obtain ⟨later, whole, quiet⟩ : ∃ later,
        ((deps.answered command context (callbacks.answer command)).stall callbacks.world ()
          [⟨.send command, callbacks.answer command, (), ()⟩]).calls = [.send command] ++ later ∧
        ∀ op ∈ later, op.sent = none := (calls_answered_sent _).stall
    have silent : later.filterMap AtLeaseCall.sent = [] := List.filterMap_eq_nil_iff.mpr quiet
    rw [AtCommandLeaseDeps.calls, stall_allowed allowed, whole, List.filterMap_append, silent]
    rfl
  · next refused =>
    rw [stall_rejected refused]
    cases deps.audited <;> rfl

/-- After a send that failed there is an entry unless the callback does not return. -/
theorem handed_failed (audited : deps.audited = true) (error : Failure)
    {history : List AtLeaseEvent} (first : (history.map Event.op).filterMap AtLeaseCall.handed = []) :
    (∃ entry : AtLeaseEntry, entry.command = command ∧
      (((deps.failed command context error).stall callbacks.world () history).calls).filterMap
        AtLeaseCall.handed = [redact entry.value]) ↔ ¬ deps.Abandoned callbacks command error := by
  have before : (history.map Event.op).reverse.filterMap AtLeaseCall.handed = [] := by
    rw [List.filterMap_reverse, first, List.reverse_nil]
  constructor
  · rintro ⟨entry, -, handed⟩ abandoned
    rw [stall_abandoned abandoned, List.filterMap_append, before] at handed
    cases handed
  · intro settles
    obtain ⟨entry, named, handed⟩ := stall_recorded context history audited settles
    exact ⟨entry, named, by rw [handed, before, List.nil_append]⟩

/-- A reply is recorded once, except that a sink that throws has the entry of the error, too. -/
theorem handed_answered (audited : deps.audited = true) (response : AtResponse)
    (sent : AtLeaseEvent) (isSend : sent.op = .send command) :
    (∃ entry : AtLeaseEntry, entry.command = command ∧
      (((deps.answered command context (.ok (some response))).stall callbacks.world ()
        [sent]).calls).filterMap AtLeaseCall.handed = [redact entry.value]) ↔
      let entry : AtLeaseEntry := ⟨command, .sent response.ok, callbacks.now 0, context⟩
      ∀ error, callbacks.record (redact entry.value) = .error error →
        deps.Abandoned callbacks command error := by
  have unread : clockReads [sent] = 0 := by simp [clockReads, isSend]
  have notHanded : sent.op.handed = none := by rw [isSend]; rfl
  unfold AtCommandLeaseDeps.answered
  rw [stall_catch, stall_monad_bind, stall_record, unread]
  simp only [audited, if_true, Stalled.follow_some]
  cases thrown : callbacks.record
      (redact (AtLeaseEntry.value ⟨command, .sent response.ok, callbacks.now 0, context⟩)) with
  | ok =>
    refine iff_of_true ⟨⟨command, .sent response.ok, callbacks.now 0, context⟩, rfl, ?_⟩ nofun
    simp [Stalled.calls, List.filterMap_cons, AtLeaseCall.handed, isSend]
  | error error =>
    simp only [Stalled.follow_some, Except.error.injEq, forall_eq']
    constructor
    · rintro ⟨entry, -, once⟩
      by_contra settles
      obtain ⟨again, -, handed⟩ := stall_recorded context
        [⟨.record ⟨command, .sent response.ok, callbacks.now 0, context⟩, .error error, (), ()⟩,
          ⟨.now, .ok (callbacks.now 0), (), ()⟩, sent] audited settles
      rw [handed] at once
      simp [List.filterMap_cons, AtLeaseCall.handed, isSend] at once
    · intro abandoned
      refine ⟨⟨command, .sent response.ok, callbacks.now 0, context⟩, rfl, ?_⟩
      rw [stall_abandoned abandoned]
      simp [List.filterMap_cons, AtLeaseCall.handed, isSend]

theorem handed_iff :
    (∃ entry : AtLeaseEntry, entry.command = command ∧
      (deps.calls callbacks command context).filterMap AtLeaseCall.handed = [redact entry.value]) ↔
        deps.Recorded callbacks command context := by
  unfold AtCommandLeaseDeps.Recorded
  cases audited : deps.audited with
  | false =>
    obtain ⟨later, whole, silent⟩ : ∃ later,
        ((deps.run command context).stall callbacks.world () []).calls = [] ++ later ∧
          ∀ op ∈ later, op.handed = none := (calls_run_silent audited).stall
    have none_handed : (deps.calls callbacks command context).filterMap AtLeaseCall.handed = [] := by
      rw [AtCommandLeaseDeps.calls, whole, List.nil_append]
      exact List.filterMap_eq_nil_iff.mpr silent
    simp [none_handed]
  | true =>
    by_cases allowed : command ∈ deps.allowlist
    · simp only [allowed, true_implies, true_and]
      rw [AtCommandLeaseDeps.calls, stall_allowed allowed]
      match callbacks.answer command with
      | .error error => exact handed_failed audited error rfl
      | .ok none => exact handed_failed audited _ rfl
      | .ok (some response) => exact handed_answered audited response _ rfl
    · refine iff_of_true ⟨⟨command, .rejected (js "not in allowlist"),
        callbacks.now 0, context⟩, rfl, ?_⟩ ⟨rfl, fun mem => ?_⟩
      · rw [stall_rejected allowed, audited]
        rfl
      · exact absurd mem allowed

end Runs

/-- What a transition sends is of its plan and allowed. A lease calls its sender for what is allowed
and for nothing else, and leaves one entry as long as the sink takes it and the watchdog callback
returns. -/
theorem sent_and_audited (deps : AtCommandLeaseDeps) (callbacks : AtLeaseCallbacks)
    (command : JsString) (context : Option JsValue) :
    (∀ (self : UsbModeTransition) (polls : Polls) (request : UsbModeTransitionRequest),
      (self.execute polls request).Calls fun op =>
        ∀ command, op = .send command → self.Grants request command) ∧
    (deps.calls callbacks command context).filterMap AtLeaseCall.sent =
        (if command ∈ deps.allowlist then [command] else []) ∧
      ((∃ entry : AtLeaseEntry, entry.command = command ∧
        (deps.calls callbacks command context).filterMap AtLeaseCall.handed =
          [redact entry.value]) ↔ deps.Recorded callbacks command context) :=
  ⟨calls_execute, calls_sent, handed_iff⟩

/-- A lease whose sender hangs and whose watchdog callback rejects. -/
def hangingLease : AtCommandLeaseDeps := ⟨[js "ATI"], 10000, true, true⟩

def hangingCallbacks : AtLeaseCallbacks where
  send := fun _ => none
  onWatchdog := fun _ => some (.error (.other (js "uninhibit failed")))
  record := fun _ => .ok ()
  now := fun _ => .finite 0

/-- The command is sent, and the audit has nothing of it. -/
theorem hanging_unaudited :
    (hangingLease.calls hangingCallbacks (js "ATI") none).filterMap AtLeaseCall.sent = [js "ATI"] ∧
      (hangingLease.calls hangingCallbacks (js "ATI") none).filterMap AtLeaseCall.handed = [] :=
  ⟨rfl, rfl⟩

end ModemStack.Backend
