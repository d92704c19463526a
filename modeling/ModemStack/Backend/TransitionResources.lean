import ModemStack.Backend.UsbModeTransition

/-!
What a USB-mode transition takes, it gives back.

A run's ledger lists what it obtained (a lifecycle hold, an inhibition, a quiesce
lease) and how it gave each back. The executor attempts every return exactly once.
`gives_back` says exactly when that is enough.
-/

namespace ModemStack.Backend

open ModemStack.Async ModemStack.Async.Program ModemStack.Text ModemStack.UsbMode

/-! ### The ledger of a run -/

/-- What was taken and given back, latest first. The flag of a return tells whether
it was accepted. `fatal` are the rejected calls whose rejection nobody catches. -/
structure Ledger where
  fatal : List Call
  held : List JsString
  unheld : List Bool
  taken : List InhibitLease
  returned : List (InhibitLease × Bool)
  quiesced : List QuiesceLease
  unquiesced : List (QuiesceLease × Bool)
  activated : List Receipt

def Ledger.blank : Ledger := ⟨[], [], [], [], [], [], [], []⟩

/-- The ledger with one more event. -/
def Ledger.enter (ledger : Ledger) : TransitionEvent → Ledger
  | ⟨.probeReadiness, .error _, _, _⟩ => { ledger with fatal := .probeReadiness :: ledger.fatal }
  | ⟨.canDisrupt key, .error _, _, _⟩ => { ledger with fatal := .canDisrupt key :: ledger.fatal }
  | ⟨.hold key, .error _, _, _⟩ => { ledger with fatal := .hold key :: ledger.fatal }
  | ⟨.hold key, .ok _, _, _⟩ => { ledger with held := key :: ledger.held }
  | ⟨.releaseHold, answer, _, _⟩ => { ledger with unheld := answer.isOk :: ledger.unheld }
  | ⟨.acquireQuiesce id ifname, .error _, _, _⟩ =>
    { ledger with fatal := .acquireQuiesce id ifname :: ledger.fatal }
  | ⟨.acquireQuiesce _ _, .ok lease, _, _⟩ => { ledger with quiesced := lease :: ledger.quiesced }
  | ⟨.releaseQuiesce lease, answer, _, _⟩ =>
    { ledger with unquiesced := (lease, answer.isOk) :: ledger.unquiesced }
  | ⟨.inhibit _, .ok lease, _, _⟩ => { ledger with taken := lease :: ledger.taken }
  | ⟨.uninhibit lease, answer, _, _⟩ =>
    { ledger with returned := (lease, answer.isOk) :: ledger.returned }
  | ⟨.activate _ _, .ok receipt, _, _⟩ => { ledger with activated := receipt :: ledger.activated }
  | _ => ledger

def ledger : List TransitionEvent → Ledger
  | [] => .blank
  | event :: history => (ledger history).enter event

variable {history : List TransitionEvent}

@[simp] theorem ledger_cons {event : TransitionEvent} :
    ledger (event :: history) = (ledger history).enter event := rfl

/-- The answers to the attempts to end an inhibition. -/
def Ledger.attempts (ledger : Ledger) (lease : InhibitLease) : List Bool :=
  (ledger.returned.filter fun entry => entry.1 = lease).map Prod.snd

/-- Everything the run took has been given back: it resolved; every hold was ended by
one accepted call; every inhibition had an attempt to end it, and a second one where an
attempt was rejected; every quiesce lease was released or superseded by an activation
that was applied. -/
structure GivesBack
    (run : Run Locals Call Call.Answer Failure UsbModeTransitionOutcome) : Prop where
  resolves : ∃ outcome, run.outcome = .ok outcome
  hold : (ledger run.history).unheld = (ledger run.history).held.map fun _ => true
  inhibit : ∀ lease ∈ (ledger run.history).taken,
    (ledger run.history).attempts lease ≠ [] ∧
      (false ∈ (ledger run.history).attempts lease →
        2 ≤ ((ledger run.history).attempts lease).length)
  quiesce : ∀ lease ∈ (ledger run.history).quiesced,
    (lease, true) ∈ (ledger run.history).unquiesced ∨
      ∃ receipt ∈ (ledger run.history).activated, receipt.status = .applied

/-- An answer the executor does not make good: an admission probe, the hold or the
quiesce lease is rejected; a return is rejected; the activation is answered by a
receipt that is not `applied`. -/
def Uncooperative : TransitionEvent → Prop
  | ⟨.probeReadiness, .error _, _, _⟩ | ⟨.canDisrupt _, .error _, _, _⟩
  | ⟨.hold _, .error _, _, _⟩ | ⟨.acquireQuiesce _ _, .error _, _, _⟩
  | ⟨.uninhibit _, .error _, _, _⟩ | ⟨.releaseQuiesce _, .error _, _, _⟩
  | ⟨.releaseHold, .error _, _, _⟩ => True
  | ⟨.activate _ _, .ok receipt, _, _⟩ => receipt.status ≠ .applied
  | _ => False

/-! ### What each part does to the ledger -/

/-- Calls that take nothing and give nothing back. -/
def Quiet : Call → Prop
  | .send _ | .record _ | .enumerate | .sleep | .resolveIfname _ => True
  | _ => False

theorem Ledger.enter_quiet {ledger : Ledger} {op : Call} (quiet : Quiet op)
    {answer : Except Failure op.Answer} {called resumed : Locals} :
    ledger.enter ⟨op, answer, called, resumed⟩ = ledger := by
  cases op <;> first | exact quiet.elim | rfl

/-- Inside the transaction: `quiesce` and one hold are out; an inhibition taken is
either held or has had its one attempt; `active` tells whether the activation has been
answered. -/
structure Books (quiesce : QuiesceLease) (active : Bool) (ledger : Ledger) (s : Locals) :
    Prop where
  fatal : ledger.fatal = []
  held : ledger.held.length = 1
  unheld : ledger.unheld = []
  taken : ledger.taken = ledger.returned.map Prod.fst ++ s.inhibit.toList
  once : ledger.taken.length ≤ 1
  quiesced : ledger.quiesced = [quiesce]
  unquiesced : ledger.unquiesced = []
  activated : ledger.activated.length = active.toNat
  reactivated : s.reactivated = active

section Parts

variable {quiesce : QuiesceLease} {active : Bool}

/-- The books, before the activation. -/
def Open (quiesce : QuiesceLease) (history : List TransitionEvent) (s : Locals) : Prop :=
  Books quiesce false (ledger history) s

variable {s : Locals} {history : List TransitionEvent} {commands : List JsString}
  {plan : UsbModeTransitionPlan}

variable {op : Call}

theorem Books.quiet {ledger : Ledger} (books : Books quiesce active ledger s) (quiet : Quiet op)
    {answer : Except Failure op.Answer} {called resumed : Locals} :
    Books quiesce active (ledger.enter ⟨op, answer, called, resumed⟩) s := by
  rw [Ledger.enter_quiet quiet]
  exact books

theorem keeps_ask (quiet : Quiet op) : (ask op).Keeps (Open quiesce) :=
  keeps_perform fun _ _ _ books => books.quiet quiet

theorem keeps_attempt (quiet : Quiet op) : (attempt op).Keeps (Open quiesce) :=
  keeps_yield fun _ _ _ books => books.quiet quiet

theorem Books.steps {ledger : Ledger} (books : Books quiesce active ledger s)
    {steps : List JsString} : Books quiesce active ledger { s with steps := steps } :=
  ⟨books.fatal, books.held, books.unheld, books.taken, books.once, books.quiesced,
    books.unquiesced, books.activated, books.reactivated⟩

theorem keeps_step {name : String} : (step name).Keeps (Open quiesce) :=
  keeps_modify fun _ _ books => books.steps

/-- An inhibition is given up with one attempt, whatever comes of it. -/
theorem Books.giveUp {ledger : Ledger} {lease : InhibitLease}
    (books : Books quiesce active ledger s) (holds : s.inhibit = some lease)
    {answer : Except Failure Unit} {called resumed : Locals} :
    Books quiesce active (ledger.enter ⟨.uninhibit lease, answer, called, resumed⟩)
      { s with inhibit := none } := by
  have taken := books.taken
  have once := books.once
  rw [holds] at taken
  have first : ledger.returned = [] := by
    rw [taken, List.length_append, List.length_map] at once
    exact List.eq_nil_of_length_eq_zero (by simpa using once)
  refine { books with taken := ?_, reactivated := books.reactivated }
  rw [first] at taken
  show ledger.taken = ((lease, answer.isOk) :: ledger.returned).map Prod.fst ++ []
  rw [taken, first]
  rfl

theorem ends_forceUninhibit (books : Books quiesce active (ledger history) s) :
    forceUninhibit.Ends (fun history outcome s => outcome = .ok () ∧ s.inhibit = none ∧
      Books quiesce active (ledger history) s) s history := by
  simp only [forceUninhibit, ends_monad_bind, ends_get, onOutcome_ok, ends_modify]
  cases holds : s.inhibit with
  | none => exact ⟨rfl, rfl, { books with taken := holds ▸ books.taken }⟩
  | some =>
    intro answer
    exact ⟨rfl, rfl, (books.giveUp holds).steps⟩

theorem keeps_forceUninhibit : forceUninhibit.Keeps (Open quiesce) :=
  fun _ _ books => (ends_forceUninhibit books).mono fun _ _ _ ended => ended.2.2

/-! ### AT commands and waits -/

theorem keeps_sleep : (attempt .sleep).Keeps (Open quiesce) := keeps_attempt trivial

theorem keeps_record {lease : AtCommandLease} {entry : AtAuditEntry} :
    (lease.record entry).Keeps (Open quiesce) :=
  keeps_ite (keeps_ask trivial) keeps_pure

theorem keeps_run {lease : AtCommandLease} (watchdog : lease.onWatchdog.Keeps (Open quiesce))
    {command uid : JsString} : (lease.run command uid).Keeps (Open quiesce) := by
  unfold AtCommandLease.run
  split
  · exact keeps_record.bind fun _ => keeps_fail
  · have sent : (lease.sendWithWatchdog command).Keeps (Open quiesce) := by
      refine Keeps.bind (keeps_ask trivial) fun response => ?_
      cases response with
      | none => exact keeps_fail
      | some => exact keeps_pure
    refine (sent.bind fun response => keeps_record.bind fun _ => keeps_pure).catch fun error => ?_
    split
    · exact watchdog.bind fun _ => keeps_record.bind fun _ => keeps_fail
    · exact keeps_record.bind fun _ => keeps_fail

variable {self : UsbModeTransition}

theorem keeps_lease_run {command uid : JsString} :
    ((self.lease commands).run command uid).Keeps (Open quiesce) :=
  keeps_run keeps_forceUninhibit

variable {uid : JsString} {device : UsbDeviceSnapshot} {request : UsbModeTransitionRequest}

theorem keeps_awaitPortDrop {polls : Nat} :
    (self.awaitPortDrop uid polls).Keeps (Open quiesce) := by
  induction polls with
  | zero => exact keeps_fail
  | succ polls ih =>
    refine Keeps.bind (keeps_ask trivial) fun devices => ?_
    split
    · exact keeps_sleep.bind fun _ => ih
    · exact keeps_pure

theorem keeps_awaitDevice {polls : Nat} : (self.awaitDevice uid polls).Keeps (Open quiesce) := by
  induction polls with
  | zero => exact keeps_fail
  | succ polls ih =>
    refine Keeps.bind (keeps_ask trivial) fun devices => ?_
    split
    · exact keeps_pure
    · exact keeps_sleep.bind fun _ => ih

theorem keeps_postcondition :
    (transitionPostconditionFailure plan device (self.lease commands) uid).Keeps
      (Open quiesce) := by
  unfold transitionPostconditionFailure
  split
  · exact keeps_ite keeps_pure keeps_pure
  · exact keeps_step.bind fun _ => keeps_lease_run.bind fun _ => keeps_ite keeps_pure keeps_pure

theorem keeps_resolveIfname : (self.resolveIfname device).Keeps (Open quiesce) :=
  keeps_ite (keeps_ask trivial) keeps_pure

/-! ### The transaction -/

theorem keeps_applySwitch : (applySwitch (self.lease commands) plan uid).Keeps (Open quiesce) := by
  unfold applySwitch
  split
  · exact keeps_pure
  · exact keeps_step.bind fun _ => keeps_lease_run.bind fun _ => keeps_pure

theorem keeps_uninhibitHeld : uninhibitHeld.Keeps (Open quiesce) := by
  intro s history books
  simp only [uninhibitHeld, ends_monad_bind, ends_get, onOutcome_ok]
  cases holds : s.inhibit with
  | none => exact books
  | some => exact ends_perform.mpr fun answer => books.giveUp holds

theorem ends_switchMode {polls : Polls} (books : Open quiesce history s)
    (nothing : (ledger history).taken = []) :
    (self.switchMode polls request (self.lease commands) plan).Ends
      (fun history _ s => Open quiesce history s) s history := by
  refine ends_monad_bind.mpr <| ends_monad_bind.mpr <| ends_perform.mpr fun answer => ?_
  cases answer with
  | error => exact books.steps
  | ok lease =>
    have holding : ∀ called resumed, Open quiesce
        (⟨.inhibit request.inhibitUid, .ok lease, called, resumed⟩ :: history)
        { s with steps := s.steps ++ [js "inhibit"], inhibit := some lease } := by
      intro called resumed
      have returned : (ledger history).returned = [] := by
        have taken := books.taken
        rw [nothing] at taken
        exact List.map_eq_nil_iff.mp (List.append_eq_nil_iff.mp taken.symm).1
      refine { books with taken := ?_, once := ?_, reactivated := books.reactivated }
      · show lease :: (ledger history).taken =
          (ledger history).returned.map Prod.fst ++ ([lease] : List InhibitLease)
        rw [nothing, returned]
        rfl
      · show (lease :: (ledger history).taken).length ≤ 1
        rw [nothing]
        exact Nat.le_refl 1
    have rest : Program.Keeps (Open quiesce) (do
        step "at-command"
        let _ ← (self.lease commands).run plan.atCommand request.inhibitUid
        applySwitch (self.lease commands) plan request.inhibitUid
        step "await-port-drop"
        self.awaitPortDrop request.cachedPhysicalUid polls.drop
        step "uninhibit"
        uninhibitHeld
        step "await-reenumeration"
        self.awaitDevice request.cachedPhysicalUid polls.device) :=
      keeps_step.bind fun _ => keeps_lease_run.bind fun _ => keeps_applySwitch.bind fun _ =>
        keeps_step.bind fun _ => keeps_awaitPortDrop.bind fun _ => keeps_step.bind fun _ =>
          keeps_uninhibitHeld.bind fun _ => keeps_step.bind fun _ => keeps_awaitDevice
    exact rest _ _ (holding _ _)

theorem ends_conclude (books : Open quiesce history s) :
    (self.conclude request (self.lease commands) plan device).Ends
      (fun history _ s => ∃ active, Books quiesce active (ledger history) s) s history := by
  refine ends_monad_bind.mpr <| ends_monad_bind.mpr ?_
  refine (keeps_postcondition _ history books.steps).mono fun history failure s books => ?_
  cases failure with
  | error => exact ⟨false, books⟩
  | ok failure =>
    cases failure with
    | some => exact ⟨false, books⟩
    | none =>
      refine ends_monad_bind.mpr <| ends_monad_bind.mpr ?_
      refine (keeps_resolveIfname _ history books.steps).mono fun history ifname s books => ?_
      cases ifname with
      | error => exact ⟨false, books⟩
      | ok ifname =>
        cases ifname with
        | none => exact ⟨false, books⟩
        | some =>
          refine ends_monad_bind.mpr <| ends_monad_bind.mpr <|
            ends_perform.mpr fun answer => ?_
          cases answer with
          | error => exact ⟨false, books.steps⟩
          | ok =>
            refine ⟨true, { books with activated := ?_, reactivated := rfl }⟩
            exact congrArg Nat.succ books.activated

/-- The ledger once the transaction is over, hold aside. -/
structure Settled (resolved : Prop) (ledger : Ledger) : Prop where
  resolves : resolved ↔ ledger.fatal = []
  taken : ledger.taken = ledger.returned.map Prod.fst
  once : ledger.taken.length ≤ 1
  quiesce : ledger.quiesced = [] ∧ ledger.unquiesced = [] ∧ ledger.activated = [] ∨
    ∃ lease, ledger.quiesced = [lease] ∧
      ((∃ accepted, ledger.unquiesced = [(lease, accepted)]) ∧ ledger.activated = [] ∨
        ledger.unquiesced = [] ∧ ∃ receipt, ledger.activated = [receipt])

theorem ends_recover {error : Failure} (books : Books quiesce active (ledger history) s) :
    (UsbModeTransition.recover error).Ends (fun history outcome s =>
      (∃ value, outcome = .ok value) ∧ Books quiesce active (ledger history) s) s history := by
  refine ends_monad_bind.mpr ((ends_forceUninhibit books).mono fun history outcome s ended => ?_)
  obtain ⟨rfl, -, books⟩ := ended
  exact fun answer => ⟨⟨_, rfl⟩, books⟩

/-- The transaction has ended with `outcome`; its hold is still out. -/
def Transacted (history : List TransitionEvent)
    (outcome : Except Failure UsbModeTransitionOutcome) : Prop :=
  Settled (∃ value, outcome = .ok value) (ledger history) ∧ (ledger history).held.length = 1 ∧
    (ledger history).unheld = []

theorem ends_restore {outcome : Except Failure UsbModeTransitionOutcome}
    (resolved : ∃ value, outcome = .ok value) (books : Books quiesce active (ledger history) s) :
    (UsbModeTransition.restore quiesce).Ends (fun history cleaned _ => OnOutcome
      (fun _ => Transacted history outcome) (fun error => Transacted history (.error error))
      cleaned) s history := by
  refine ends_monad_bind.mpr ((ends_forceUninhibit books).mono fun history cleaned s ended => ?_)
  obtain ⟨rfl, none, books⟩ := ended
  have taken := books.taken
  rw [none, Option.toList_none, List.append_nil] at taken
  have resolves : (∃ value, outcome = .ok value) ↔ (ledger history).fatal = [] :=
    ⟨fun _ => books.fatal, fun _ => resolved⟩
  refine ends_monad_bind.mpr ?_
  simp only [ends_get, onOutcome_ok, books.reactivated]
  cases active with
  | true =>
    obtain ⟨receipt, activated⟩ := List.length_eq_one_iff.mp books.activated
    exact ⟨⟨resolves, taken, books.once,
      .inr ⟨quiesce, books.quiesced, .inr ⟨books.unquiesced, receipt, activated⟩⟩⟩,
      books.held, books.unheld⟩
  | false =>
    have activated := List.eq_nil_of_length_eq_zero books.activated
    exact fun answer => ⟨⟨resolves, taken, books.once,
      .inr ⟨quiesce, books.quiesced,
        .inl ⟨⟨_, congrArg (List.cons _) books.unquiesced⟩, activated⟩⟩⟩,
      books.held, books.unheld⟩

/-- In the transaction, with the hold begun and nothing else taken. -/
structure Begun (ledger : Ledger) (s : Locals) : Prop where
  ledger : ∃ key, ledger = { Ledger.blank with held := [key] }
  inhibit : s.inhibit = none
  reactivated : s.reactivated = false

theorem ends_runTransaction {polls : Polls} (begun : Begun (ledger history) s) :
    (self.runTransaction polls request commands plan).Ends
      (fun history outcome _ => Transacted history outcome) s history := by
  obtain ⟨key, isBegun⟩ := begun.ledger
  refine ends_monad_bind.mpr <| ends_monad_bind.mpr <| ends_perform.mpr fun answer => ?_
  cases answer with
  | error =>
    show Settled _ ((ledger history).enter _) ∧
      ((ledger history).enter _).held.length = 1 ∧ ((ledger history).enter _).unheld = []
    rw [isBegun]
    exact ⟨⟨⟨nofun, nofun⟩, rfl, Nat.zero_le 1, .inl ⟨rfl, rfl, rfl⟩⟩, rfl, rfl⟩
  | ok lease =>
    have opened : ∀ called resumed, Open lease
        (⟨.acquireQuiesce request.connectionId request.deviceIfname, .ok lease, called,
          resumed⟩ :: history) { s with steps := s.steps ++ [js "nm-quiesce"] } := by
      intro called resumed
      show Books lease false ((ledger history).enter _) _
      rw [isBegun]
      exact ⟨rfl, rfl, rfl, by rw [begun.inhibit]; rfl, Nat.zero_le 1, rfl, rfl, rfl,
        begun.reactivated⟩
    have nothing : ∀ called resumed, (ledger (⟨.acquireQuiesce request.connectionId
        request.deviceIfname, .ok lease, called, resumed⟩ :: history)).taken = [] := by
      intro called resumed
      rw [ledger_cons, isBegun]
      rfl
    refine ends_ensuring.mpr <| ends_catch.mpr <| ends_monad_bind.mpr ?_
    refine (ends_switchMode (opened _ _) (nothing _ _)).mono fun history device s books => ?_
    have recovered : ∀ {history s error active}, Books lease active (ledger history) s →
        (UsbModeTransition.recover error).Ends (fun history outcome s =>
          (UsbModeTransition.restore lease).Ends (fun history cleaned _ => OnOutcome
            (fun _ => Transacted history outcome)
            (fun error => Transacted history (.error error)) cleaned) s history)
          s history := fun books =>
      (ends_recover books).mono fun history outcome s ended => ends_restore ended.1 ended.2
    cases device with
    | error => exact recovered books
    | ok =>
      refine (ends_conclude books).mono fun history outcome s ended => ?_
      obtain ⟨active, books⟩ := ended
      cases outcome with
      | ok value => exact ends_restore ⟨value, rfl⟩ books
      | error => exact recovered books

end Parts

/-! ### The whole run -/

/-- A finished run's books: the hold, if it was begun, has had its one attempt too. -/
structure Closed (resolved : Prop) (ledger : Ledger) : Prop extends Settled resolved ledger where
  hold : ledger.unheld.length = ledger.held.length

theorem ends_check {catalog : CertifiedCatalog} {request : UsbModeTransitionRequest} {s : Locals} :
    (checkTransitionPreconditions catalog request).Ends (fun after outcome now =>
      (∀ error, outcome = .error error → ∃ call, ledger after =
          { ledger history with fatal := call :: (ledger history).fatal }) ∧
        (∀ result, outcome = .ok result → ledger after = ledger history ∧ now = s))
      s history := by
  unfold checkTransitionPreconditions
  split
  · exact ⟨nofun, fun _ _ => ⟨rfl, rfl⟩⟩
  · refine ends_monad_bind.mpr <| ends_perform.mpr fun confidence => ?_
    cases confidence with
    | error => exact ⟨fun _ _ => ⟨_, rfl⟩, nofun⟩
    | ok =>
      refine onOutcome_ok.mpr (ends_ite (fun _ => ⟨nofun, fun _ _ => ⟨rfl, rfl⟩⟩) fun _ => ?_)
      refine ends_monad_bind.mpr <| ends_perform.mpr fun verdict => ?_
      cases verdict with
      | error => exact ⟨fun _ _ => ⟨_, rfl⟩, nofun⟩
      | ok verdict => cases verdict <;> exact ⟨nofun, fun _ _ => ⟨rfl, rfl⟩⟩

theorem closed_blank {resolved : Prop} (resolves : resolved) : Closed resolved .blank :=
  ⟨⟨⟨fun _ => rfl, fun _ => resolves⟩, rfl, Nat.zero_le 1, .inl ⟨rfl, rfl, rfl⟩⟩, rfl⟩

theorem closed_fatal {resolved : Prop} {call : Call} (rejects : ¬ resolved) :
    Closed resolved { Ledger.blank with fatal := [call] } :=
  ⟨⟨⟨fun resolves => absurd resolves rejects, nofun⟩, rfl, Nat.zero_le 1, .inl ⟨rfl, rfl, rfl⟩⟩,
    rfl⟩

theorem ends_inActor {self : UsbModeTransition} {polls : Polls} {request : UsbModeTransitionRequest}
    (blank : ledger history = .blank) : (self.inActor polls request).Ends (fun history outcome _ =>
      Closed (∃ value, outcome = .ok value) (ledger history)) .start history := by
  refine ends_monad_bind.mpr <| ends_monad_bind.mpr <| ends_check.mono
    fun history outcome s checked => ?_
  rw [blank] at checked
  cases outcome with
  | error error =>
    obtain ⟨call, fatal⟩ := checked.1 error rfl
    simp only [onOutcome_error, fatal]
    exact closed_fatal (by simp)
  | ok result =>
    obtain ⟨blank, rfl⟩ := checked.2 result rfl
    cases result with
    | refused =>
      simp only [onOutcome_ok, ends_pure, blank]
      exact closed_blank ⟨_, rfl⟩
    | accepted =>
      refine ends_monad_bind.mpr <| ends_perform.mpr fun answer => ?_
      cases answer with
      | error =>
        show Closed _ ((ledger history).enter _)
        rw [blank]
        exact closed_fatal (by simp)
      | ok begins =>
        have begun : ∀ called resumed, Begun (ledger (⟨.hold request.stableKey, .ok begins,
            called, resumed⟩ :: history)) { Locals.start with
              steps := Locals.start.steps ++ [js "actor-enter"] } := by
          intro called resumed
          refine ⟨⟨request.stableKey, ?_⟩, rfl, rfl⟩
          rw [ledger_cons, blank]
          rfl
        refine ends_ensuring.mpr <| (ends_runTransaction (begun _ _)).mono
          fun history outcome s transacted => ?_
        obtain ⟨settled, held, unheld⟩ := transacted
        intro answer
        refine { settled with hold := ?_ }
        show (_ :: (ledger history).unheld).length = (ledger history).held.length
        rw [unheld, held]
        rfl

theorem ends_execute (self : UsbModeTransition) (polls : Polls)
    (request : UsbModeTransitionRequest) :
    (self.execute polls request).Ends (fun history outcome _ =>
      Closed (∃ value, outcome = .ok value) (ledger history)) .start [] := by
  refine ends_monad_bind.mpr <| ends_check.mono fun history outcome s checked => ?_
  cases outcome with
  | error error =>
    obtain ⟨call, fatal⟩ := checked.1 error rfl
    simp only [onOutcome_error, fatal]
    exact closed_fatal (by simp)
  | ok result =>
    obtain ⟨blank, rfl⟩ := checked.2 result rfl
    cases result with
    | refused =>
      simp only [onOutcome_ok, ends_pure, blank]
      exact closed_blank ⟨_, rfl⟩
    | accepted => exact ends_monad_bind.mpr fun answer => ends_inActor blank

/-! ### What was accepted -/

/-- Everything given back was accepted, and nothing was rejected that is not caught. -/
def Clean (ledger : Ledger) : Prop :=
  ledger.fatal = [] ∧ (∀ accepted ∈ ledger.unheld, accepted = true) ∧
    (∀ entry ∈ ledger.returned, entry.2 = true) ∧
    (∀ entry ∈ ledger.unquiesced, entry.2 = true) ∧
    ∀ receipt ∈ ledger.activated, receipt.status = .applied

theorem clean_enter {ledger : Ledger} {event : TransitionEvent} :
    Clean (ledger.enter event) ↔ ¬ Uncooperative event ∧ Clean ledger := by
  obtain ⟨op, answer, called, resumed⟩ := event
  cases op <;> cases answer <;>
    simp only [Clean, Ledger.enter, Uncooperative, List.forall_mem_cons, Except.isOk,
      Except.toBool, reduceCtorEq, false_and, and_false, not_true_eq_false, not_false_eq_true,
      true_and, Bool.false_eq_true]
  rw [ne_eq, not_not]
  tauto

theorem clean_iff : Clean (ledger history) ↔ ∀ event ∈ history, ¬ Uncooperative event := by
  induction history with
  | nil =>
    exact ⟨fun _ _ mem => absurd mem List.not_mem_nil,
      fun _ => ⟨rfl, nofun, nofun, nofun, nofun⟩⟩
  | cons event history ih => rw [ledger_cons, clean_enter, ih, List.forall_mem_cons]

/-- With closed books, whether everything was given back is whether it was accepted. -/
theorem Closed.givesBack_iff {run : Run Locals Call Call.Answer Failure UsbModeTransitionOutcome}
    (closed : Closed (∃ value, run.outcome = .ok value) (ledger run.history)) :
    GivesBack run ↔ Clean (ledger run.history) := by
  generalize isLedger : ledger run.history = books at closed
  constructor
  · intro gives
    have hold := gives.hold
    have inhibit := gives.inhibit
    have quiesce := gives.quiesce
    rw [isLedger] at hold inhibit quiesce
    refine ⟨closed.resolves.mp gives.resolves, ?_, ?_, ?_, ?_⟩
    · intro accepted mem
      rw [hold] at mem
      obtain ⟨_, _, rfl⟩ := List.mem_map.mp mem
      rfl
    · rintro ⟨lease, accepted⟩ mem
      have taken : lease ∈ books.taken := by
        rw [closed.taken]
        exact List.mem_map.mpr ⟨_, mem, rfl⟩
      -- a rejected attempt would need a second one, and there is one at most
      by_contra rejected
      have attempted : false ∈ books.attempts lease :=
        List.mem_map.mpr ⟨_, List.mem_filter.mpr ⟨mem, decide_eq_true rfl⟩,
          Bool.eq_false_iff.mpr rejected⟩
      have twice := (inhibit lease taken).2 attempted
      have once := closed.once
      rw [closed.taken, List.length_map] at once
      have few : (books.attempts lease).length ≤ books.returned.length := by
        rw [Ledger.attempts, List.length_map]
        exact List.length_filter_le _ _
      omega
    · rintro ⟨lease, accepted⟩ mem
      rcases closed.quiesce with ⟨-, none, -⟩ | ⟨only, quiesced, ⟨⟨answer, one⟩, none⟩ | ⟨none, -⟩⟩
      · exact absurd (none ▸ mem) List.not_mem_nil
      · have given := quiesce only (quiesced ▸ List.mem_singleton.mpr rfl)
        rw [one, none] at given
        rw [one] at mem
        rw [List.mem_singleton.mp mem]
        rcases given with given | ⟨_, mem, -⟩
        · exact (Prod.mk.inj (List.mem_singleton.mp given)).2.symm
        · exact absurd mem List.not_mem_nil
      · exact absurd (none ▸ mem) List.not_mem_nil
    · intro receipt mem
      rcases closed.quiesce with ⟨-, -, none⟩ | ⟨only, quiesced, ⟨-, none⟩ | ⟨none, answer, one⟩⟩
      · exact absurd (none ▸ mem) List.not_mem_nil
      · exact absurd (none ▸ mem) List.not_mem_nil
      · have given := quiesce only (quiesced ▸ List.mem_singleton.mpr rfl)
        rw [one, none] at given
        rw [one] at mem
        rcases given with given | ⟨applied, isAnswer, status⟩
        · exact absurd given List.not_mem_nil
        · rw [List.mem_singleton.mp mem, ← List.mem_singleton.mp isAnswer]
          exact status
  · rintro ⟨fatal, unheld, returned, unquiesced, activated⟩
    refine ⟨closed.resolves.mpr fatal, ?_, ?_, ?_⟩ <;> rw [isLedger]
    · rw [List.map_const', ← closed.hold]
      exact List.eq_replicate_of_mem unheld
    · intro lease taken
      rw [closed.taken] at taken
      obtain ⟨entry, mem, rfl⟩ := List.mem_map.mp taken
      refine ⟨List.ne_nil_of_mem (List.mem_map.mpr
        ⟨entry, List.mem_filter.mpr ⟨mem, decide_eq_true rfl⟩, rfl⟩), fun attempted => ?_⟩
      obtain ⟨other, isOther, rejected⟩ := List.mem_map.mp attempted
      exact absurd (returned other (List.mem_filter.mp isOther).1) (by rw [rejected]; decide)
    · intro lease mem
      rcases closed.quiesce with ⟨none, -, -⟩ | ⟨only, quiesced, ⟨⟨answer, one⟩, -⟩ | ⟨-, receipt, one⟩⟩
      · exact absurd (none ▸ mem) List.not_mem_nil
      · left
        rw [quiesced] at mem
        have accepted : answer = true := unquiesced _ (one ▸ List.mem_singleton.mpr rfl)
        rw [one, List.mem_singleton.mp mem, accepted]
        exact List.mem_singleton.mpr rfl
      · have isMem : receipt ∈ books.activated := one ▸ List.mem_singleton.mpr rfl
        exact .inr ⟨receipt, isMem, activated receipt isMem⟩

/-- The transition gives back everything it took exactly in the runs without an
uncooperative answer. -/
theorem gives_back (self : UsbModeTransition) (polls : Polls) (request : UsbModeTransitionRequest)
    (world : Async.World Locals Call Call.Answer Failure) :
    GivesBack ((self.execute polls request).drive world .start []) ↔
      ∀ event ∈ ((self.execute polls request).drive world .start []).history,
        ¬ Uncooperative event :=
  ((ends_execute self polls request).drive world).givesBack_iff.trans clean_iff

/-- The uninhibition of step 5 is rejected: the lease is dropped before the call, so
nothing tries again. -/
theorem gives_back_fails : ¬ GivesBack
    ((bench.execute ⟨1, 1⟩ benchRequest).drive (benchWorld (.error (.other [])) .applied true)
      .start []) := by
  intro gives
  have taken : (ledger ((bench.execute ⟨1, 1⟩ benchRequest).drive
      (benchWorld (.error (.other [])) .applied true) .start []).history).taken =
        [benchInhibit] := by decide
  have attempts : (ledger ((bench.execute ⟨1, 1⟩ benchRequest).drive
      (benchWorld (.error (.other [])) .applied true) .start []).history).attempts benchInhibit =
        [false] := by decide
  have inhibit := gives.inhibit benchInhibit (taken ▸ List.mem_singleton.mpr rfl)
  rw [attempts] at inhibit
  exact absurd (inhibit.2 (List.mem_singleton.mpr rfl)) (by decide)

end ModemStack.Backend
