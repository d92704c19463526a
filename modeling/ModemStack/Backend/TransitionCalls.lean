import ModemStack.Backend.UsbModeTransition

/-!
Which calls each part of a USB-mode transition makes.

Each fact is about an arbitrary predicate `P` on calls that the routine ones meet;
what is asked of the others is said part by part.
-/

namespace ModemStack.Backend

open ModemStack.Async ModemStack.Async.Program ModemStack.Text ModemStack.UsbMode

/-- Calls of any part: all but the AT commands, the quiesce lease and the activation. -/
def Routine : Call → Prop
  | .send _ | .acquireQuiesce _ _ | .releaseQuiesce _ | .activate _ _ => False
  | _ => True

/-- The set command of a plan, its apply command or its READ. -/
def UsbModeTransitionPlan.Issues (plan : UsbModeTransitionPlan) (command : JsString) : Prop :=
  plan.atCommand = command ∨ plan.applyCommand = some command ∨
    ∃ vendor target, plan.proof = .runtimeRequery vendor target command

section Parts

variable {P : Call → Prop} {self : UsbModeTransition} {request : UsbModeTransitionRequest}
  {plan : UsbModeTransitionPlan} {commands : List JsString} {uid : JsString}

theorem calls_ask {op : Call} (meets : P op) : (ask op).Calls P := calls_perform meets

theorem calls_attempt {op : Call} (meets : P op) : (attempt op).Calls P := calls_yield meets

theorem calls_step {name : String} : (step name).Calls P := calls_modify

variable (routine : ∀ op, Routine op → P op)

include routine

theorem calls_forceUninhibit : forceUninhibit.Calls P := by
  refine calls_get.andThen fun s => calls_modify.andThen fun _ => ?_
  cases s.inhibit with
  | none => exact calls_pure
  | some => exact calls_step.andThen fun _ => calls_attempt (routine _ trivial)

theorem calls_record {lease : AtCommandLease} {entry : AtAuditEntry} :
    (lease.record entry).Calls P :=
  calls_ite (calls_ask (routine _ trivial)) calls_pure

theorem calls_failed {command : JsString} {error : Failure} :
    (do
      if error.timedOut then (self.lease commands).onWatchdog
      (self.lease commands).record ⟨command, if error.timedOut then .timeout error.message
        else .error error.message, uid⟩
      .fail error : TransitionTask AtResponse).Calls P := by
  have recorded : ∀ entry, ((self.lease commands).record entry >>= fun _ =>
      (.fail error : TransitionTask AtResponse)).Calls P := by
    intro entry
    exact (calls_record routine).andThen fun _ => calls_fail
  refine calls_ite ?_ (recorded _)
  exact (calls_forceUninhibit routine).andThen fun _ => recorded _

theorem calls_run {command : JsString}
    (sends : command ∈ computeAtAllowlist commands → P (.send command)) :
    ((self.lease commands).run command uid).Calls P := by
  unfold AtCommandLease.run
  split
  · exact (calls_record routine).andThen fun _ => calls_fail
  · next listed =>
    refine Calls.catch (Calls.andThen ?_ fun response => (calls_record routine).andThen
      fun _ => calls_pure) fun error => calls_failed routine
    refine Calls.andThen (calls_ask (sends (not_not.mp listed))) fun response => ?_
    cases response with
    | none => exact calls_fail
    | some => exact calls_pure

theorem calls_uninhibitHeld : uninhibitHeld.Calls P := by
  refine calls_get.andThen fun s => ?_
  cases s.inhibit with
  | none => exact calls_pure
  | some => exact calls_modify.andThen fun _ => calls_ask (routine _ trivial)

theorem calls_applySwitch (sends : ∀ command, plan.applyCommand = some command →
      command ∈ computeAtAllowlist commands → P (.send command)) :
    (applySwitch (self.lease commands) plan uid).Calls P := by
  unfold applySwitch
  split
  · exact calls_pure
  · next command isApply =>
      exact calls_step.andThen fun _ => (calls_run routine (sends command isApply)).andThen
        fun _ => calls_pure

theorem calls_awaitPortDrop {polls : Nat} : (self.awaitPortDrop uid polls).Calls P := by
  induction polls with
  | zero => exact calls_fail
  | succ polls ih =>
    refine Calls.andThen (calls_ask (routine _ trivial)) fun devices => ?_
    refine calls_ite ?_ calls_pure
    exact (calls_attempt (routine .sleep trivial)).andThen fun _ => ih

theorem calls_awaitDevice {polls : Nat} : (self.awaitDevice uid polls).Calls P := by
  induction polls with
  | zero => exact calls_fail
  | succ polls ih =>
    refine Calls.andThen (calls_ask (routine _ trivial)) fun devices => ?_
    split
    · exact calls_pure
    · exact (calls_attempt (routine .sleep trivial)).andThen fun _ => ih

theorem calls_switchMode {polls : Polls} (sends : ∀ command, plan.Issues command →
      command ∈ computeAtAllowlist commands → P (.send command)) :
    (self.switchMode polls request (self.lease commands) plan).Calls P := by
  refine calls_step.andThen fun _ => Calls.andThen (calls_ask (routine _ trivial)) fun held => ?_
  refine calls_modify.andThen fun _ => calls_step.andThen fun _ => ?_
  refine (calls_run routine (sends _ (.inl rfl))).andThen fun _ => ?_
  refine (calls_applySwitch routine fun command isApply =>
    sends command (.inr (.inl isApply))).andThen fun _ => ?_
  refine calls_step.andThen fun _ => (calls_awaitPortDrop routine).andThen fun _ => ?_
  refine calls_step.andThen fun _ => (calls_uninhibitHeld routine).andThen fun _ => ?_
  exact calls_step.andThen fun _ => calls_awaitDevice routine

theorem calls_postcondition {device : UsbDeviceSnapshot} (sends : ∀ command,
      plan.Issues command → command ∈ computeAtAllowlist commands → P (.send command)) :
    (transitionPostconditionFailure plan device (self.lease commands) uid).Calls P := by
  unfold transitionPostconditionFailure
  split
  · exact calls_ite calls_pure calls_pure
  · next vendor target currentQuery isProof =>
    refine calls_step.andThen fun _ => (calls_run routine
      (sends currentQuery (.inr (.inr ⟨vendor, target, isProof⟩)))).andThen fun response => ?_
    exact calls_ite calls_pure calls_pure

theorem calls_conclude {device : UsbDeviceSnapshot} (sends : ∀ command, plan.Issues command →
      command ∈ computeAtAllowlist commands → P (.send command))
    (activates : ∀ ifname, P (.activate request.connectionId ifname)) :
    (self.conclude request (self.lease commands) plan device).Calls P := by
  refine calls_step.andThen fun _ => (calls_postcondition routine sends).andThen fun failure => ?_
  cases failure with
  | some => exact calls_pure
  | none =>
    refine calls_step.andThen fun _ => Calls.andThen
      (calls_ite (calls_ask (routine _ trivial)) calls_pure) fun ifname => ?_
    cases ifname with
    | none => exact calls_pure
    | some newIfname =>
      refine calls_step.andThen fun _ => Calls.andThen (calls_ask (activates newIfname))
        fun receipt => ?_
      exact calls_modify.andThen fun _ => calls_pure

theorem calls_recover {error : Failure} : (UsbModeTransition.recover error).Calls P :=
  (calls_forceUninhibit routine).andThen fun _ =>
    Calls.andThen (calls_attempt (routine _ trivial)) fun _ => calls_pure

theorem calls_restore {quiesce : QuiesceLease} (releases : P (.releaseQuiesce quiesce)) :
    (UsbModeTransition.restore quiesce).Calls P := by
  refine (calls_forceUninhibit routine).andThen fun _ => calls_get.andThen fun s => ?_
  exact calls_ite calls_pure (calls_step.andThen fun _ => calls_attempt releases)

theorem calls_check {catalog : CertifiedCatalog} :
    (checkTransitionPreconditions catalog request).Calls P := by
  unfold checkTransitionPreconditions
  split
  · exact calls_pure
  · refine Calls.andThen (calls_ask (routine _ trivial)) fun confidence => ?_
    refine calls_ite calls_pure ?_
    refine Calls.andThen (calls_ask (routine _ trivial)) fun verdict => ?_
    cases verdict <;> exact calls_pure

theorem calls_runTransaction {polls : Polls} (sends : ∀ command, plan.Issues command →
      command ∈ computeAtAllowlist commands → P (.send command))
    (quiesces : P (.acquireQuiesce request.connectionId request.deviceIfname))
    (releases : ∀ quiesce, P (.releaseQuiesce quiesce))
    (activates : ∀ ifname, P (.activate request.connectionId ifname)) :
    (self.runTransaction polls request commands plan).Calls P := by
  refine calls_step.andThen fun _ => Calls.andThen (calls_ask quiesces) fun quiesce => ?_
  refine Calls.ensuring (Calls.catch ?_ fun error => calls_recover routine)
    (calls_restore routine (releases quiesce))
  exact Calls.andThen (calls_switchMode routine sends) fun device =>
    calls_conclude routine sends activates

end Parts

/-- The check grants no other plan than the one the request and the catalog decide on. -/
theorem returns_check (catalog : CertifiedCatalog) (request : UsbModeTransitionRequest) :
    (checkTransitionPreconditions catalog request).Returns fun result =>
      ∀ plan commands, result = .accepted plan commands → staticResult catalog request = result := by
  unfold checkTransitionPreconditions
  split
  · exact nofun
  · next plan commands decided =>
    refine Returns.bind fun confidence => ?_
    split
    · exact nofun
    · refine Returns.bind fun verdict => ?_
      cases verdict with
      | deny => exact nofun
      | allow => exact fun _ _ _ => decided

/-- A command of the plan that the request is granted, in the allowlist of the lease. -/
def UsbModeTransition.Grants (self : UsbModeTransition) (request : UsbModeTransitionRequest)
    (command : JsString) : Prop :=
  ∃ plan commands, staticResult self.catalog request = .accepted plan commands ∧
    plan.Issues command ∧ command ∈ (self.lease commands).allowlist

theorem calls_execute (self : UsbModeTransition) (polls : Polls)
    (request : UsbModeTransitionRequest) :
    (self.execute polls request).Calls fun op =>
      ∀ command, op = .send command → self.Grants request command := by
  have routine : ∀ op, Routine op → ∀ command, op = .send command → self.Grants request command := by
    rintro op isRoutine command rfl
    exact isRoutine.elim
  have checks : (checkTransitionPreconditions self.catalog request).Calls fun op =>
      ∀ command, op = .send command → self.Grants request command := calls_check routine
  have returns := returns_check self.catalog request
  refine checks.andThenOf returns fun result decided => ?_
  cases result with
  | refused => exact calls_pure
  | accepted _ _ =>
    refine Calls.andThen (calls_attempt nofun) fun _ => calls_step.andThen fun _ => ?_
    refine checks.andThenOf returns fun result decided => ?_
    cases result with
    | refused => exact calls_pure
    | accepted plan commands =>
      refine Calls.andThen (calls_ask nofun) fun _ => Calls.ensuring ?_
        (calls_step.andThen fun _ => calls_attempt nofun)
      refine calls_runTransaction routine (fun command issued listed => ?_) nofun nofun nofun
      rintro _ ⟨⟩
      exact ⟨plan, commands, decided plan commands rfl, issued, listed⟩

end ModemStack.Backend
