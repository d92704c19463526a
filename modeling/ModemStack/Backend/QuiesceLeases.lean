import ModemStack.Backend.NmcliNmPort
import ModemStack.Backend.TransitionCalls
import ModemStack.Backend.TransitionResources

/-!
Quiesce leases, from the transition that takes one to the sweep of those left behind.

Transitions and sweeps run on one event loop and share the adapter's table. A failed
transition returns its lease; a successful one leaves it in the table, for a sweep to
find. `no_stale_lease` is about the transitions whose activation was never answered.
-/

namespace ModemStack.Backend

open ModemStack.Async ModemStack.Async.Program ModemStack.Text

/-! ### The loop -/

/-- What runs on the loop. `tick` is the clock moving. -/
inductive LeaseUse where
  | transition (self : UsbModeTransition) (polls : Polls) (request : UsbModeTransitionRequest)
  | sweep (now : Option Int)
  | tick (now : Int)

abbrev LeaseOp : Type := NmcliCall ⊕ Call

abbrev LeaseAnswer : LeaseOp → Type := Sum.elim NmcliCall.Answer Call.Answer

abbrev LeaseTask (α : Type) : Type := Program NmState LeaseOp LeaseAnswer Failure α

abbrev LeaseLoop : Type :=
  EventLoop NmState LeaseUse LeaseOp LeaseAnswer Failure (Option UsbModeTransitionOutcome)

abbrev LeaseTurn : Type := Turn LeaseUse LeaseOp LeaseAnswer Failure

/-- The calls of a transition that the adapter answers; the others are left to the world. -/
def serve (holder : Nat) : (op : Call) → LeaseTask op.Answer
  | .acquireQuiesce connectionId deviceIfname =>
    (NmcliNmPort.acquireQuiesceLease holder connectionId deviceIfname).inl.call
      (.inr (.acquireQuiesce connectionId deviceIfname))
  | .releaseQuiesce lease =>
    (NmcliNmPort.releaseQuiesceLease ⟨holder, lease⟩).inl.call (.inr (.releaseQuiesce lease))
  | .activate connectionId deviceIfname =>
    (NmcliNmPort.activate connectionId deviceIfname).inl.call
      (.inr (.activate connectionId deviceIfname))
  | op => (perform (Sum.inr op) : LeaseTask (LeaseAnswer (.inr op)))

def leaseTask (leaseTtlMs : Int) (task : Nat) :
    LeaseUse → LeaseTask (Option UsbModeTransitionOutcome)
  | .transition self polls request => do
      let outcome ← (self.execute polls request).hosted (serve task) .start
      pure (some outcome)
  | .sweep now => do
      (NmcliNmPort.sweepExpiredLeases leaseTtlMs now).inl
      pure none
  | .tick now => do
      modify fun s => { s with clock := now }
      pure none

def leaseLoop (clock : Int) : LeaseLoop := ⟨⟨[], clock⟩, []⟩

/-- The answer is NetworkManager's to an activation. -/
def Activates : (op : LeaseOp) → Except Failure (LeaseAnswer op) → Prop
  | .inl (.up _ _), .ok _ => True
  | _, _ => False

/-- The turn is not the answer to an activation of task `t`. -/
def Unactivated (t : Nat) (loop : LeaseLoop) : LeaseTurn → Prop
  | .start _ => True
  | .resume task answer => task = t → ∀ op, loop.pending t = some op → ¬ Activates op (answer op)

/-- Once task `t` has settled the table holds no lease of its, and no task called later
re-activates what such a lease was for. -/
def NoStaleLease (leaseTtlMs : Int) (t : Nat) (loop : LeaseLoop) (after : List LeaseTurn) : Prop :=
  loop.outcome t ≠ none → (∀ held ∈ loop.shared.leases, held.holder ≠ t) ∧
    ∀ later, loop.tasks.length ≤ later → ∀ held,
      (loop.run (leaseTask leaseTtlMs) after).pending later = some (.inl (.reactivate held)) →
        held.holder ≠ t

/-! ### Leases lent to a transition -/

/-- What a transition holds after one more event. -/
def lend (lent : List QuiesceLease) : TransitionEvent → List QuiesceLease
  | ⟨.acquireQuiesce _ _, .ok lease, _, _⟩ => lease :: lent
  | ⟨.releaseQuiesce lease, _, _, _⟩ => lent.filter fun other => other ≠ lease
  | _ => lent

def lent : List TransitionEvent → List QuiesceLease
  | [] => []
  | event :: history => lend (lent history) event

@[simp] theorem lent_cons {event : TransitionEvent} {history : List TransitionEvent} :
    lent (event :: history) = lend (lent history) event := rfl

/-- Calls that move no quiesce lease. -/
def Steady : Call → Prop
  | .acquireQuiesce _ _ | .releaseQuiesce _ => False
  | _ => True

/-- `leases` are lent and none has been returned. -/
def Lends (leases : List QuiesceLease) (history : List TransitionEvent) : Prop :=
  lent history = leases ∧ (ledger history).unquiesced = []

/-- Nothing is lent, or nothing has been returned. -/
def Repaid (history : List TransitionEvent) : Prop :=
  lent history = [] ∨ (ledger history).unquiesced = []

section Lending

variable {op : Call} {answer : Except Failure op.Answer} {called resumed : Locals}
  {history : List TransitionEvent} {leases : List QuiesceLease}

theorem lent_steady (steady : Steady op) :
    lent (⟨op, answer, called, resumed⟩ :: history) = lent history := by
  cases op <;> first | exact steady.elim | rfl

theorem unquiesced_steady (steady : Steady op) :
    (ledger (⟨op, answer, called, resumed⟩ :: history)).unquiesced =
      (ledger history).unquiesced := by
  cases op <;> first | exact steady.elim | (cases answer <;> rfl)

theorem steady_routine : ∀ op, Routine op → Steady op
  | .acquireQuiesce _ _, routine | .releaseQuiesce _, routine => routine.elim
  | .probeReadiness, _ | .canDisrupt _, _ | .enterActor _, _ | .hold _, _ | .releaseHold, _
  | .inhibit _, _ | .uninhibit _, _ | .record _, _ | .enumerate, _ | .sleep, _
  | .resolveIfname _, _ | .send _, _ | .activate _ _, _ => trivial

theorem lends_keeps {α : Type} {p : TransitionTask α} (calls : p.Calls Steady) :
    p.Keeps fun history _ => Lends leases history := by
  refine calls.keeps fun steady _ history answer lends => ?_
  exact ⟨(lent_steady steady).trans lends.1, (unquiesced_steady steady).trans lends.2⟩

theorem Lends.repaid (lends : Lends leases history) : Repaid history := .inr lends.2

/-- What is lent was taken. -/
theorem lent_subset (history : List TransitionEvent) : lent history ⊆ (ledger history).quiesced := by
  induction history with
  | nil => exact List.Subset.refl _
  | cons event history ih =>
    obtain ⟨op, answer, called, resumed⟩ := event
    cases op with
    | acquireQuiesce =>
      cases answer with
      | ok lease => exact List.cons_subset_cons lease ih
      | error => exact ih
    | releaseQuiesce lease =>
      have kept : (ledger history).quiesced = (ledger (⟨.releaseQuiesce lease, answer, called,
          resumed⟩ :: history)).quiesced := rfl
      exact kept ▸ List.Subset.trans (List.filter_subset_self _) ih
    | _ => cases answer <;> exact ih

variable {self : UsbModeTransition} {polls : Polls} {request : UsbModeTransitionRequest}
  {s : Locals}

/-- A lease is returned unless the new interface has been activated. -/
theorem repaid_restore {lease : QuiesceLease} (lends : Lends [lease] history) :
    (UsbModeTransition.restore lease).Ends (fun history cleaned _ => OnOutcome
      (fun _ => Repaid history) (fun _ => Repaid history) cleaned) s history := by
  have keeps : forceUninhibit.Keeps fun history _ => Lends [lease] history :=
    lends_keeps (calls_forceUninhibit steady_routine)
  refine ends_monad_bind.mpr ((keeps s history lends).mono fun history given s lends => ?_)
  cases given with
  | error => exact lends.repaid
  | ok =>
    refine ends_monad_bind.mpr (ends_ite (fun _ => lends.repaid) fun _ answer => .inl ?_)
    rw [lent_cons, lends.1]
    simp only [lend, ne_eq, List.filter_singleton, decide_not, decide_true, Bool.not_true,
      cond_false]

theorem repaid_runTransaction {commands : List JsString} {plan : UsbModeTransitionPlan}
    (lends : Lends [] history) :
    (self.runTransaction polls request commands plan).Ends
      (fun history _ _ => Repaid history) s history := by
  refine ends_monad_bind.mpr <| ends_monad_bind.mpr <| ends_perform.mpr fun answer => ?_
  cases answer with
  | error => exact .inl lends.1
  | ok lease =>
    have taken : ∀ called resumed, Lends [lease] (⟨.acquireQuiesce request.connectionId
        request.deviceIfname, .ok lease, called, resumed⟩ :: history) := by
      intro called resumed
      exact ⟨congrArg (List.cons lease) lends.1, lends.2⟩
    have sends : ∀ command, plan.Issues command → command ∈ computeAtAllowlist commands →
        Steady (.send command) := fun _ _ _ => trivial
    have calls : (Program.catch (do
        let device ← self.switchMode polls request (self.lease commands) plan
        self.conclude request (self.lease commands) plan device)
        UsbModeTransition.recover).Calls Steady := by
      refine Calls.catch (Calls.andThen (calls_switchMode steady_routine sends) fun device => ?_)
        fun error => calls_recover steady_routine
      exact calls_conclude steady_routine sends fun _ => trivial
    refine ends_ensuring.mpr ((lends_keeps calls _ _ (taken _ _)).mono
      fun history outcome s lends => ?_)
    exact repaid_restore lends

/-- A run ends with nothing lent, or has returned nothing. -/
theorem repaid_execute (self : UsbModeTransition) (polls : Polls)
    (request : UsbModeTransitionRequest) :
    (self.execute polls request).Ends (fun history _ _ => Repaid history) .start [] := by
  have checks : (checkTransitionPreconditions self.catalog request).Keeps
      fun history _ => Lends [] history := lends_keeps (calls_check steady_routine)
  refine ends_monad_bind.mpr ((checks _ _ ⟨rfl, rfl⟩).mono fun history result s lends => ?_)
  cases result with
  | error => exact lends.repaid
  | ok result =>
    cases result with
    | refused => exact lends.repaid
    | accepted =>
      refine ends_monad_bind.mpr fun answer => ends_monad_bind.mpr <| ends_monad_bind.mpr ?_
      refine (checks _ (⟨.enterActor request.stableKey, answer, s, s⟩ :: history) lends).mono
        fun history result s lends => ?_
      cases result with
      | error => exact lends.repaid
      | ok result =>
        cases result with
        | refused => exact lends.repaid
        | accepted =>
          refine ends_monad_bind.mpr <| ends_perform.mpr fun answer => ?_
          cases answer with
          | error => exact lends.repaid
          | ok begins =>
            have begun : Lends [] (⟨.hold request.stableKey, .ok begins, s, s⟩ :: history) :=
              lends
            refine ends_ensuring.mpr ((repaid_runTransaction begun).mono
              fun history outcome s repaid => ?_)
            exact fun answer => repaid

/-- A run without an answered activation ends with nothing lent. -/
theorem lent_execute (self : UsbModeTransition) (polls : Polls)
    (request : UsbModeTransitionRequest) :
    (self.execute polls request).Ends (fun history _ _ =>
      (ledger history).activated = [] → lent history = []) .start [] := by
  refine ((repaid_execute self polls request).and (ends_execute self polls request)).mono
    fun history outcome s ⟨repaid, closed⟩ none => ?_
  rcases repaid with repaid | kept
  · exact repaid
  · rcases closed.quiesce with ⟨nothing, -, -⟩ | ⟨lease, -, ⟨⟨accepted, returned⟩, -⟩ | ⟨-, some⟩⟩
    · exact List.subset_nil.mp (nothing ▸ lent_subset history)
    · cases kept.symm.trans returned
    · obtain ⟨receipt, activated⟩ := some
      cases none.symm.trans activated

end Lending

/-! ### The contracts of the loop -/

/-- A task adds and takes back leases of its own; any task may take back any lease. -/
def leaseContract (t task : Nat) : Contract NmState LeaseOp LeaseAnswer Failure where
  rely s now := ∀ held ∈ now.leases, held.holder = task → held ∈ s.leases
  guarantee s now := ∀ held ∈ now.leases, held.holder ≠ task → held ∈ s.leases
  fair _ op answer := task = t → ¬ Activates op answer
  call _ _ := True

def leaseDiscipline (t : Nat) :
    Discipline NmState LeaseUse LeaseOp LeaseAnswer Failure (Option UsbModeTransitionOutcome) where
  invariant _ := True
  fresh task s := ∀ held ∈ s.leases, held.holder ≠ task
  contract task _ := leaseContract t task
  done task _ _ s := task = t → ∀ held ∈ s.leases, held.holder ≠ t

theorem lawful_leaseDiscipline (t : Nat) : (leaseDiscipline t).Lawful where
  refl _ _ _ _ mem _ := mem
  trans _ _ _ _ _ first second held mem own := first held (second held mem own) own
  others _ _ _ _ ne _ _ guarantee held mem own := guarantee held mem (own ▸ ne.symm)
  fresh _ _ _ lt _ _ guarantee fresh held mem own :=
    fresh held (guarantee held mem (own ▸ Nat.ne_of_gt lt)) own

/-- Since its turn began the task has added no lease of another's, and its own leases
are among `leases`. -/
structure Mine (task : Nat) (leases : List QuiesceLease) (begun s : NmState) : Prop where
  others : ∀ held ∈ s.leases, held.holder ≠ task → held ∈ begun.leases
  own : ∀ held ∈ s.leases, held.holder = task → held.lease ∈ leases

section Handlers

variable {t task : Nat} {leases : List QuiesceLease} {begun s : NmState}

/-- At an await the task's leases stay among `leases`. -/
theorem Mine.rests (mine : Mine task leases begun s) {P : NmState → Prop}
    (later : ∀ now, Mine task leases now now → P now) :
    (leaseContract t task).Rests (fun _ => True) begun s P := by
  refine ⟨trivial, mine.others, fun now relies _ => later now ⟨fun held mem _ => mem, ?_⟩⟩
  exact fun held mem own => mine.own held (relies held mem own) own

/-- Delete a lease of the table. -/
theorem Mine.delete (mine : Mine task leases begun s) (held : HeldLease) :
    Mine task leases begun { s with leases := s.leases.filter fun other => other ≠ held } :=
  ⟨fun other mem => mine.others other (List.mem_of_mem_filter mem),
    fun other mem => mine.own other (List.mem_of_mem_filter mem)⟩

/-- Awaiting nmcli moves no lease. -/
theorem meets_nmcli {call : NmcliCall} (mine : Mine task leases begun s)
    {Done : Except Failure NmcliResult → NmState → NmState → Prop}
    (answered : ∀ answer now, Mine task leases now now →
      (task = t → ¬ Activates (.inl call) answer) → Done answer now now) :
    (perform call : NmTask NmcliResult).Meets (fun _ => True) (leaseContract t task).left Done
      begun s := by
  have rests : (leaseContract t task).Rests (fun _ => True) begun s fun now =>
      True ∧ ∀ answer, (task = t → ¬ Activates (.inl call) answer) → Done answer now now :=
    mine.rests fun now mine => ⟨trivial, fun answer fair => answered answer now mine fair⟩
  exact meets_perform.mpr ⟨rests.invariant, rests.guarantee, rests.later⟩

/-- A handler's caller goes on in a later turn. -/
theorem Mine.resume (mine : Mine task leases begun s) {op : LeaseOp} {P : NmState → Prop}
    (later : ∀ now, Mine task leases now now → P now) :
    (leaseContract t task).Rests (fun _ => True) begun s fun now =>
      (leaseContract t task).call op now ∧
        ∀ answer, (leaseContract t task).fair now op answer → P now :=
  mine.rests fun now mine => ⟨trivial, fun _ _ => later now mine⟩

variable {connectionId deviceIfname : JsString}

theorem meets_quiesce (mine : Mine task leases begun s) :
    (NmcliNmPort.quiesce connectionId deviceIfname).Meets (fun _ => True)
      (leaseContract t task).left (fun _ begun s => Mine task leases begun s) begun s := by
  refine meets_monad_bind.mpr <| meets_monad_bind.mpr <| meets_nmcli mine
    fun answer now mine _ => ?_
  cases answer with
  | error => exact mine
  | ok =>
    refine meets_ite (fun _ => ?_) fun _ => mine
    refine meets_monad_bind.mpr <| meets_nmcli mine fun answer now mine _ => ?_
    cases answer <;> exact mine

theorem meets_acquire (mine : Mine task leases begun s) :
    (NmcliNmPort.acquireQuiesceLease task connectionId deviceIfname).Meets (fun _ => True)
      (leaseContract t task).left (fun outcome begun s => OnOutcome
        (fun lease => Mine task (lease :: leases) begun s)
        (fun _ => Mine task leases begun s) outcome) begun s := by
  refine meets_monad_bind.mpr ((meets_quiesce mine).mono fun outcome begun s mine => ?_)
  cases outcome with
  | error => exact mine
  | ok =>
    refine meets_monad_bind.mpr <| meets_ite (fun _ => ?_) fun _ => mine
    constructor
    · intro held mem other
      rcases List.mem_append.mp mem with old | new
      · exact mine.others held old other
      · exact absurd (congrArg HeldLease.holder (List.mem_singleton.mp new)) other
    · intro held mem own
      rcases List.mem_append.mp mem with old | new
      · exact List.mem_cons_of_mem _ (mine.own held old own)
      · rw [List.mem_singleton.mp new]
        exact List.mem_cons_self

theorem meets_release {lease : QuiesceLease} (mine : Mine task leases begun s) :
    (NmcliNmPort.releaseQuiesceLease ⟨task, lease⟩).Meets (fun _ => True)
      (leaseContract t task).left (fun _ begun s =>
        Mine task (leases.filter fun other => other ≠ lease) begun s) begun s := by
  refine meets_monad_bind.mpr <| meets_ite (fun _ => ?_) fun absent => ?_
  · refine meets_monad_bind.mpr <| meets_monad_bind.mpr ?_
    have deleted : Mine task (leases.filter fun other => other ≠ lease) begun
        { s with leases := s.leases.filter fun other => other ≠ ⟨task, lease⟩ } := by
      refine { mine.delete ⟨task, lease⟩ with own := fun held mem own => ?_ }
      obtain ⟨mem, ne⟩ := List.mem_filter.mp mem
      refine List.mem_filter.mpr ⟨mine.own held mem own, decide_eq_true fun same => ?_⟩
      exact of_decide_eq_true ne (by cases held; cases own; cases same; rfl)
    refine meets_nmcli deleted fun answer now mine _ => ?_
    cases answer <;> exact mine
  · refine { mine with own := fun held mem own => ?_ }
    refine List.mem_filter.mpr ⟨mine.own held mem own, decide_eq_true fun same => ?_⟩
    exact absent (by cases held; cases own; cases same; exact mem)

theorem meets_activate (mine : Mine task leases begun s) :
    (NmcliNmPort.activate connectionId deviceIfname).Meets (fun _ => True)
      (leaseContract t task).left (fun outcome begun s => Mine task leases begun s ∧
        (task = t → ∃ error, outcome = .error error)) begun s := by
  refine meets_monad_bind.mpr <| meets_nmcli mine fun answer now mine unanswered => ?_
  cases answer with
  | error error => exact ⟨mine, fun _ => ⟨error, rfl⟩⟩
  | ok => exact ⟨mine, fun isT => absurd trivial (unanswered isT)⟩

theorem meets_sweepOver {leaseTtlMs now : Int} {rest : List HeldLease}
    (mine : Mine task leases begun s) :
    (NmcliNmPort.sweepOver leaseTtlMs now rest).Meets (fun _ => True)
      (leaseContract t task).left (fun _ begun s => Mine task leases begun s) begun s := by
  induction rest generalizing begun s with
  | nil => exact mine
  | cons held rest ih =>
    refine meets_ite (fun _ => ?_) fun _ => ih mine
    refine meets_monad_bind.mpr <| meets_monad_bind.mpr <| meets_nmcli (mine.delete held)
      fun answer now mine _ => ?_
    cases answer with
    | error => exact mine
    | ok => exact ih mine

/-- What a transition has been answered, and where its leases are. -/
structure Within (t task : Nat) (history : List TransitionEvent) (begun s : NmState) : Prop where
  mine : Mine task (lent history) begun s
  silent : task = t → (ledger history).activated = []

/-- The adapter keeps a transition's leases among those lent to it. -/
theorem meets_serve (op : Call) (history : List TransitionEvent) (begun s : NmState)
    (within : Within t task history begun s) :
    (serve task op).Meets (fun _ => True) (leaseContract t task) (fun answer begun s =>
      ∀ own, Within t task (⟨op, answer, own, own⟩ :: history) begun s) begun s := by
  cases op with
  | acquireQuiesce =>
    refine meets_call.mpr (((meets_acquire within.mine).mono fun outcome begun s mine => ?_).inl)
    cases outcome with
    | ok | error => exact Mine.resume mine fun now mine own => ⟨mine, within.silent⟩
  | releaseQuiesce =>
    refine meets_call.mpr (((meets_release within.mine).mono fun outcome begun s mine => ?_).inl)
    exact mine.resume fun now mine own => ⟨mine, within.silent⟩
  | activate =>
    refine meets_call.mpr (((meets_activate within.mine).mono
      fun outcome begun s ⟨mine, fails⟩ => ?_).inl)
    refine mine.resume fun now mine own => ⟨mine, fun isT => ?_⟩
    obtain ⟨error, rfl⟩ := fails isT
    exact within.silent isT
  | _ =>
    refine meets_perform.mpr (within.mine.rests fun now mine => ⟨trivial, fun answer _ own => ?_⟩)
    exact ⟨mine, fun isT => by cases answer <;> exact within.silent isT⟩

theorem meets_transition {self : UsbModeTransition} {polls : Polls}
    {request : UsbModeTransitionRequest} (mine : Mine task [] begun s) :
    ((self.execute polls request).hosted (serve task) .start).Meets (fun _ => True)
      (leaseContract t task) (fun _ begun s => ∃ leases, Mine task leases begun s ∧
        (task = t → leases = [])) begun s := by
  have within : Within t task [] begun s := ⟨mine, fun _ => rfl⟩
  refine ((lent_execute self polls request).hosted within meets_serve).mono ?_
  rintro outcome begun s ⟨history, own, repaid, within⟩
  exact ⟨lent history, within.mine, fun isT => repaid (within.silent isT)⟩

/-- A task that ends with nothing lent has left nothing in the table. -/
theorem Mine.done (mine : Mine task leases begun s) (none : task = t → leases = [])
    {call : LeaseUse} {outcome : Except Failure (Option UsbModeTransitionOutcome)} :
    (leaseContract t task).Rests (fun _ => True) begun s
      ((leaseDiscipline t).done task call outcome) :=
  mine.rests fun _ mine isT held mem own =>
    absurd (mine.own held mem (own.trans isT.symm)) (none isT ▸ List.not_mem_nil)

theorem begins_leaseTask (leaseTtlMs : Int) {call : LeaseUse}
    (fresh : (leaseDiscipline t).fresh task s) :
    (leaseDiscipline t).Begins (leaseTask leaseTtlMs) task call s := by
  have mine : Mine task [] s s :=
    ⟨fun held mem _ => mem, fun held mem own => absurd own (fresh held mem)⟩
  cases call with
  | transition =>
    refine meets_monad_bind.mpr ((meets_transition mine).mono fun outcome begun s ended => ?_)
    obtain ⟨leases, mine, none⟩ := ended
    cases outcome <;> exact mine.done none
  | sweep =>
    refine meets_monad_bind.mpr (Meets.inl ?_)
    refine meets_monad_bind.mpr ((meets_sweepOver mine).mono fun outcome begun s mine => ?_)
    cases outcome <;> exact mine.done fun _ => rfl
  | tick instant =>
    have ticked : Mine task [] s { s with clock := instant } := ⟨mine.others, mine.own⟩
    exact Mine.done ticked fun _ => rfl

end Handlers

/-! ### Later tasks -/

/-- The operation re-activates no lease of task `t`. -/
def Spares (t : Nat) (op : LeaseOp) : Prop :=
  ∀ held, op = .inl (.reactivate held) → held.holder ≠ t

theorem spares_of_ne {t : Nat} {op : LeaseOp} (other : ∀ held, op ≠ .inl (.reactivate held)) :
    Spares t op := fun held isReactivate => absurd isReactivate (other held)

theorem calls_sweepOver {t : Nat} {leaseTtlMs now : Int} {rest : List HeldLease}
    (spared : ∀ held ∈ rest, held.holder ≠ t) :
    (NmcliNmPort.sweepOver leaseTtlMs now rest).Calls fun call => Spares t (.inl call) := by
  induction rest with
  | nil => exact calls_pure
  | cons held rest ih =>
    have spares : Spares t (.inl (.reactivate held)) := by
      rintro other ⟨⟩
      exact spared held List.mem_cons_self
    have remaining := ih fun other mem => spared other (List.mem_cons_of_mem held mem)
    refine calls_ite ?_ remaining
    exact calls_modify.andThen fun _ => Calls.andThen (calls_perform spares) fun _ => remaining

theorem calls_serve {t task : Nat} (ne : task ≠ t) (op : Call) : (serve task op).Calls (Spares t) := by
  have named : ∀ call : Call, Spares t (.inr call) := fun _ => spares_of_ne nofun
  have call : ∀ {α : Type} {p : NmTask α} {op : Call},
      p.Calls (fun call => Spares t (.inl call)) →
        (p.inl.call (Sum.inr op) : LeaseTask α).Calls (Spares t) := by
    intro α p op calls
    refine calls.inl.attempt.bind fun outcome => ⟨named op, fun _ => ?_⟩
    cases outcome <;> trivial
  cases op with
  | acquireQuiesce =>
    refine call (Calls.andThen (Calls.andThen (Calls.andThen (calls_perform (spares_of_ne nofun))
      fun _ => calls_pure) fun _ => calls_ite ?_ calls_pure) fun _ => calls_get.andThen fun _ => ?_)
    · exact Calls.andThen (calls_perform (spares_of_ne nofun)) fun _ => calls_pure
    · exact calls_ite (calls_modify.andThen fun _ => calls_pure) calls_fail
  | releaseQuiesce lease =>
    have spares : Spares t (.inl (.reactivate ⟨task, lease⟩)) := by
      rintro other ⟨⟩
      exact ne
    refine call (calls_get.andThen fun _ => calls_ite (calls_modify.andThen fun _ => ?_) calls_pure)
    exact Calls.andThen (calls_perform spares) fun _ => calls_pure
  | activate =>
    exact call (Calls.andThen (calls_perform (spares_of_ne nofun)) fun _ => calls_pure)
  | _ => exact calls_perform (named _)

theorem calls_leaseTask {t task : Nat} (ne : task ≠ t) (leaseTtlMs : Int) (call : LeaseUse)
    {s : NmState} (spared : ∀ held ∈ s.leases, held.holder ≠ t) :
    ((leaseTask leaseTtlMs task call).advance s).1.Calls (Spares t) := by
  cases call with
  | transition =>
    exact Calls.advance (Calls.andThen (Calls.hosted (calls_serve ne) _ _) fun _ => calls_pure)
  | sweep now =>
    have rest : (NmcliNmPort.sweepOver leaseTtlMs (now.getD s.clock) s.leases).Calls
        fun call => Spares t (.inl call) := calls_sweepOver spared
    have swept : ((NmcliNmPort.sweepOver leaseTtlMs (now.getD s.clock) s.leases).inl >>=
        fun _ => (pure none : LeaseTask (Option UsbModeTransitionOutcome))).Calls (Spares t) :=
      rest.inl.andThen fun _ => calls_pure
    exact swept.advance
  | tick => exact calls_pure

/-! ### Whole runs -/

/-- Task `t` has settled, and the tasks called since spare its leases. -/
structure Released (t first : Nat) (loop : LeaseLoop) : Prop where
  kept : (leaseDiscipline t).Kept loop
  settled : ∃ outcome, loop.outcome t = some outcome
  spares : loop.CallsFrom (Spares t) first
  called : t < first ∧ first ≤ loop.tasks.length

section Runs

variable {t first : Nat} {loop : LeaseLoop}

theorem none_held (kept : (leaseDiscipline t).Kept loop)
    (settled : ∃ outcome, loop.outcome t = some outcome) :
    ∀ held ∈ loop.shared.leases, held.holder ≠ t := by
  obtain ⟨outcome, settled⟩ := settled
  obtain ⟨call, p, -, done⟩ := kept.done (lawful_leaseDiscipline t) settled
  exact done rfl

theorem Released.turn (leaseTtlMs : Int) (released : Released t first loop) (next : LeaseTurn) :
    Released t first (loop.turn (leaseTask leaseTtlMs) next) := by
  obtain ⟨kept, ⟨outcome, settled⟩, spares, lt, le⟩ := released
  have lawful := lawful_leaseDiscipline t
  have length : loop.tasks.length ≤ (loop.turn (leaseTask leaseTtlMs) next).tasks.length :=
    loop.tasks_turn_length next
  refine ⟨?_, ⟨outcome, EventLoop.outcome_turn settled next⟩, ?_, lt, Nat.le_trans le length⟩
  · cases next with
    | start => exact kept.start lawful (begins_leaseTask leaseTtlMs (kept.fresh _ (Nat.le_refl _)))
    | resume task answer =>
      -- a settled task is not answered
      refine kept.resume lawful fun call op next awaits => ?_
      rintro rfl
      have waits := EventLoop.pending_of_outcome settled
      rw [EventLoop.pending, awaits] at waits
      cases waits
  · cases next with
    | start call =>
      have ne : loop.tasks.length ≠ t := by omega
      exact spares.start (calls_leaseTask ne leaseTtlMs call (none_held kept ⟨outcome, settled⟩))
    | resume task answer => exact spares.resume task answer

end Runs

/-- A transition whose activation has not been answered leaves no lease behind. -/
theorem no_stale_lease (leaseTtlMs clock : Int) (t : Nat) (before after : List LeaseTurn)
    (unactivated : EventLoop.Allows (leaseTask leaseTtlMs) (Unactivated t) (leaseLoop clock)
      before) :
    NoStaleLease leaseTtlMs t ((leaseLoop clock).run (leaseTask leaseTtlMs) before) after := by
  have kept : (leaseDiscipline t).Kept ((leaseLoop clock).run (leaseTask leaseTtlMs) before) := by
    have empty : (leaseDiscipline t).Kept (leaseLoop clock) :=
      Discipline.kept_empty trivial fun task held mem => absurd mem List.not_mem_nil
    refine empty.run (lawful_leaseDiscipline t) ?_ ?_ unactivated
    · exact fun kept _ => begins_leaseTask leaseTtlMs (kept.fresh _ (Nat.le_refl _))
    · intro loop task answer _ unanswered call op next awaits isT
      refine unanswered isT op ?_
      rw [EventLoop.pending, ← isT, awaits]
      rfl
  generalize (leaseLoop clock).run (leaseTask leaseTtlMs) before = settled at kept ⊢
  intro resolves
  obtain ⟨outcome, isOutcome⟩ := Option.ne_none_iff_exists'.mp resolves
  refine ⟨none_held kept ⟨outcome, isOutcome⟩, fun later le held pending => ?_⟩
  have lt : t < settled.tasks.length := by
    obtain ⟨call, p, found, -⟩ := EventLoop.outcome_eq_some.mp isOutcome
    exact (List.getElem?_eq_some_iff.mp found).1
  have released : Released t settled.tasks.length settled :=
    ⟨kept, ⟨outcome, isOutcome⟩, EventLoop.callsFrom_length, lt, (Nat.le_refl _)⟩
  have allowed : EventLoop.Allows (leaseTask leaseTtlMs) (fun _ _ => True) settled after :=
    EventLoop.allows_of_forall fun _ _ _ => trivial
  have after := EventLoop.run_induction (fun released _ => released.turn leaseTtlMs _) released allowed
  exact after.spares.pending le pending held rfl

/-- An answer to every call: nmcli succeeds, and the switch goes well once `inhibited`. -/
def benchAnswer (inhibited : Bool) (devices : List UsbDeviceSnapshot) :
    (op : LeaseOp) → Except Failure (LeaseAnswer op)
  | .inl (.up _ _) => if inhibited then .ok ⟨[], [], 0⟩ else .error (.other [])
  | .inl _ => .ok ⟨[], [], 0⟩
  | .inr .enumerate => .ok devices
  | .inr (.inhibit uid) => if inhibited then .ok ⟨uid, 0⟩ else .error (.other [])
  | .inr op => benchWorld (.ok ()) .applied true [] op

/-- One transition on the bench, answered until it has settled. -/
def benchLeaseRun (inhibited : Bool) : List LeaseTurn :=
  .start (.transition bench ⟨1, 1⟩ benchRequest) ::
    (List.replicate 12 (.resume 0 (benchAnswer inhibited [])) ++
      List.replicate 6 (.resume 0 (benchAnswer inhibited [benchDevice])))

/-- A minute later, a sweep. -/
def benchSweep : List LeaseTurn := [.start (.tick 60000), .start (.sweep none)]

theorem not_activates_bench (devices : List UsbDeviceSnapshot) (op : LeaseOp) :
    ¬ Activates op (benchAnswer false devices op) := by
  rcases op with call | call
  · cases call <;> exact not_false
  · exact not_false

/-- The inhibition is rejected, so the lease is returned and the sweep finds nothing. -/
theorem no_stale_lease_bench :
    NoStaleLease 60000 0 ((leaseLoop 0).run (leaseTask 60000) (benchLeaseRun false)) benchSweep ∧
      ((leaseLoop 0).run (leaseTask 60000) (benchLeaseRun false)).outcome 0 ≠ none := by
  refine ⟨no_stale_lease 60000 0 0 (benchLeaseRun false) benchSweep ?_, by decide⟩
  refine EventLoop.allows_of_forall fun turn mem loop => ?_
  have answered : ∀ devices, Unactivated 0 loop (.resume 0 (benchAnswer false devices)) :=
    fun devices _ op _ => not_activates_bench devices op
  rcases List.mem_cons.mp mem with rfl | mem
  · trivial
  · rcases List.mem_append.mp mem with mem | mem <;> rw [List.eq_of_mem_replicate mem] <;>
      exact answered _

/-- The transition succeeds and keeps its lease; a minute later the sweep brings the old
interface up again. -/
theorem no_stale_lease_fails :
    ¬ NoStaleLease 60000 0 ((leaseLoop 0).run (leaseTask 60000) (benchLeaseRun true))
      benchSweep := by
  intro stale
  have resolves : ((leaseLoop 0).run (leaseTask 60000) (benchLeaseRun true)).outcome 0 ≠ none := by
    decide
  have sweeps : (((leaseLoop 0).run (leaseTask 60000) (benchLeaseRun true)).run (leaseTask 60000)
      benchSweep).pending 2 = some (.inl (.reactivate ⟨0, benchQuiesce⟩)) := by
    decide
  have later : ((leaseLoop 0).run (leaseTask 60000) (benchLeaseRun true)).tasks.length ≤ 2 := by
    decide
  exact (stale resolves).2 2 later ⟨0, benchQuiesce⟩ sweeps rfl

end ModemStack.Backend
