import ModemStack.Backend.TransitionCalls
import ModemStack.Backend.TransitionResources

/-!
What a USB-mode transition has seen when it says `succeeded`.

The evidence of a run is what its calls were answered: an enumeration without the
device, a later one with it, on the runtime tier the reply to the READ, the new
interface and the receipt of its activation. The executor collects all of it, but
reads neither the receipt nor the `ok` of the reply.
-/

namespace ModemStack.Backend

open ModemStack.Async ModemStack.Async.Program ModemStack.Text ModemStack.UsbMode

/-! ### Evidence -/

/-- A call and what it was answered. -/
abbrev Answered : Type := Σ op : Call, Except Failure op.Answer

/-- What the calls of a run were answered, latest first. -/
def answers (history : List TransitionEvent) : List Answered :=
  history.map fun event => ⟨event.op, event.answer⟩

/-- What a successful run has to show. `reading` is the reply to the READ. -/
structure Evidence where
  before : List UsbDeviceSnapshot
  after : List UsbDeviceSnapshot
  device : UsbDeviceSnapshot
  reading : Option AtResponse
  newIfname : JsString
  receipt : Receipt

namespace Evidence

/-- The READ and its reply, if the plan asks for one. -/
def readAnswers (plan : UsbModeTransitionPlan) (reading : Option AtResponse) : List Answered :=
  match plan.proof, reading with
  | .runtimeRequery _ _ currentQuery, some reply => [⟨.send currentQuery, .ok (some reply)⟩]
  | _, _ => []

def resolveAnswers (self : UsbModeTransition) (device : UsbDeviceSnapshot)
    (newIfname : JsString) : List Answered :=
  if self.portMapped then [⟨.resolveIfname device, .ok (some newIfname)⟩] else []

/-- The answers that make the evidence, latest first. -/
def answers (self : UsbModeTransition) (request : UsbModeTransitionRequest)
    (plan : UsbModeTransitionPlan) (evidence : Evidence) : List Answered :=
  ⟨.activate request.connectionId evidence.newIfname, .ok evidence.receipt⟩ ::
    (resolveAnswers self evidence.device evidence.newIfname ++
      (readAnswers plan evidence.reading ++
        [⟨.enumerate, .ok evidence.after⟩, ⟨.enumerate, .ok evidence.before⟩]))

/-- The plan's target is confirmed on the device: by its descriptors, or by its own
reply to the READ. -/
def Confirmed (plan : UsbModeTransitionPlan) (device : UsbDeviceSnapshot)
    (reading : Option AtResponse) : Prop :=
  match plan.proof with
  | .catalogDescriptors transition =>
    reading = none ∧ detectUsbMode device = some transition.target.canonical ∧
      descriptorsMatch device transition.expectedDescriptors = true
  | .runtimeRequery vendor target _ =>
    ∃ reply, reading = some reply ∧
      readRuntimeCompositionCurrent vendor.name reply.raw = some target

/-- The evidence was seen in the run, in its order. -/
structure Seen (executor : UsbModeTransition) (request : UsbModeTransitionRequest)
    (plan : UsbModeTransitionPlan) (evidence : Evidence) (history : List TransitionEvent) :
    Prop where
  dropped : ∀ device ∈ evidence.before, device.physicalUid ≠ some request.cachedPhysicalUid
  found : evidence.device ∈ evidence.after ∧
    evidence.device.physicalUid = some request.cachedPhysicalUid
  confirmed : Confirmed plan evidence.device evidence.reading
  resolved : executor.portMapped = false →
    defaultResolveIfname evidence.device = some evidence.newIfname
  inOrder : (evidence.answers executor request plan).Sublist (Backend.answers history)

end Evidence

/-- A success is earned: the evidence for the plan was seen, the reply to the READ was a
successful one and the activation was applied. -/
def Earned (self : UsbModeTransition) (request : UsbModeTransitionRequest) (newIfname : JsString)
    (history : List TransitionEvent) : Prop :=
  ∃ plan commands, ∃ evidence : Evidence,
    staticResult self.catalog request = .accepted plan commands ∧
    evidence.newIfname = newIfname ∧ evidence.Seen self request plan history ∧
      (∀ reply ∈ evidence.reading, reply.ok = true) ∧ evidence.receipt.status = .applied

/-- Nothing the executor leaves unread was negative: every activation was answered
`applied` and every reply to the plan's READ was a successful one. -/
def Vouched (plan : UsbModeTransitionPlan) (history : List TransitionEvent) : Prop :=
  (∀ id ifname receipt, (⟨.activate id ifname, .ok receipt⟩ : Answered) ∈ answers history →
    receipt.status = .applied) ∧
  ∀ vendor target currentQuery, plan.proof = .runtimeRequery vendor target currentQuery →
    ∀ reply, (⟨.send currentQuery, .ok (some reply)⟩ : Answered) ∈ answers history →
      reply.ok = true

/-- An activation has been answered. -/
def Activated (history : List TransitionEvent) : Prop :=
  ∃ id ifname receipt, (⟨.activate id ifname, .ok receipt⟩ : Answered) ∈ answers history

/-! ### Plans -/

/-- On the runtime tier no command of the plan is its READ. -/
def UsbModeTransitionPlan.Proper (plan : UsbModeTransitionPlan) : Prop :=
  ∀ vendor target currentQuery, plan.proof = .runtimeRequery vendor target currentQuery →
    plan.atCommand ≠ currentQuery ∧ plan.applyCommand = none

variable {plan : UsbModeTransitionPlan}

theorem proper_certifiedPlan {entry : CatalogEntry} {transition : PermittedTransition}
    {commands : List JsString}
    (accepted : certifiedPlan entry transition = .accepted plan commands) : plan.Proper := by
  cases accepted
  exact nofun

theorem proper_requeryPlan {vendor : RuntimeCompositionVendor} {target : RuntimeCompositionMode}
    {atCommand : JsString} {commands : List JsString}
    (built : buildRuntimeCompositionSetCommand vendor.name target = some atCommand)
    (accepted : requeryPlan vendor target atCommand = .accepted plan commands) : plan.Proper := by
  cases accepted
  rintro _ _ _ ⟨⟩
  exact ⟨setCommand_ne_query built, rfl⟩

theorem proper_staticResult {catalog : CertifiedCatalog} {request : UsbModeTransitionRequest}
    {commands : List JsString} (accepted : staticResult catalog request = .accepted plan commands) :
    plan.Proper := by
  unfold staticResult at accepted
  split_ifs at accepted
  split at accepted
  · unfold runtimePlan at accepted
    split at accepted
    · cases accepted
    · split_ifs at accepted
      split at accepted
      · cases accepted
      · next built =>
          split at accepted
          · exact proper_requeryPlan built accepted
          · split at accepted
            · exact proper_certifiedPlan accepted
            · exact proper_requeryPlan built accepted
  · unfold catalogPlan at accepted
    split at accepted
    · cases accepted
    · split at accepted
      · cases accepted
      · exact proper_certifiedPlan accepted

/-! ### What the run has seen so far -/

/-- The replies to the plan's READ, latest first. -/
def readings (plan : UsbModeTransitionPlan) (history : List TransitionEvent) : List AtResponse :=
  match plan.proof with
  | .catalogDescriptors _ => []
  | .runtimeRequery _ _ currentQuery => history.filterMap fun
      | ⟨.send command, .ok (some reply), _, _⟩ =>
        if command = currentQuery then some reply else none
      | _ => none

/-- Calls that are no evidence. -/
def Plain (plan : UsbModeTransitionPlan) : Call → Prop
  | .activate _ _ => False
  | .send command => ∀ vendor target currentQuery,
      plan.proof = .runtimeRequery vendor target currentQuery → command ≠ currentQuery
  | _ => True

/-- The run has seen `seen` and the replies `replies`, and has activated nothing. -/
structure Track (plan : UsbModeTransitionPlan) (seen : List Answered) (replies : List AtResponse)
    (history : List TransitionEvent) : Prop where
  seen : seen.Sublist (answers history)
  activated : (ledger history).activated = []
  readings : readings plan history = replies

section Parts

variable {self : UsbModeTransition} {request : UsbModeTransitionRequest}
  {plan : UsbModeTransitionPlan} {seen : List Answered} {replies : List AtResponse}
  {history : List TransitionEvent} {op : Call}

variable {answer : Except Failure op.Answer} {called resumed : Locals} {s : Locals}
  {commands : List JsString}

theorem readings_plain (plain : Plain plan op) :
    readings plan (⟨op, answer, called, resumed⟩ :: history) = readings plan history := by
  unfold readings
  split
  · rfl
  · next isProof =>
      refine List.filterMap_cons_none ?_
      cases op with
      | send =>
        cases answer with
        | error => rfl
        | ok reply =>
          cases reply with
          | none => rfl
          | some => exact if_neg (plain _ _ _ isProof)
      | _ => rfl

theorem activated_plain (plain : Plain plan op) :
    (ledger (⟨op, answer, called, resumed⟩ :: history)).activated = (ledger history).activated := by
  cases op with
  | activate => exact plain.elim
  | _ => cases answer <;> rfl

theorem Track.plain (track : Track plan seen replies history) (plain : Plain plan op) :
    Track plan seen replies (⟨op, answer, called, resumed⟩ :: history) :=
  ⟨track.seen.cons _, (activated_plain plain).trans track.activated,
    (readings_plain plain).trans track.readings⟩

/-- A plain call whose answer is worth keeping. -/
theorem Track.note (track : Track plan seen replies history) (plain : Plain plan op) :
    Track plan (⟨op, answer⟩ :: seen) replies (⟨op, answer, called, resumed⟩ :: history) :=
  ⟨track.seen.cons_cons _, (activated_plain plain).trans track.activated,
    (readings_plain plain).trans track.readings⟩

theorem track_keeps {α : Type} {p : TransitionTask α} (calls : p.Calls (Plain plan)) :
    p.Keeps fun history _ => Track plan seen replies history :=
  calls.keeps fun plain _ _ _ track => track.plain plain

theorem plain_routine : ∀ op, Routine op → Plain plan op
  | .send _, routine | .acquireQuiesce _ _, routine | .releaseQuiesce _, routine
  | .activate _ _, routine => routine.elim
  | .probeReadiness, _ | .canDisrupt _, _ | .enterActor _, _ | .hold _, _ | .releaseHold, _
  | .inhibit _, _ | .uninhibit _, _ | .record _, _ | .enumerate, _ | .sleep, _
  | .resolveIfname _, _ => trivial

theorem plain_send (proper : plan.Proper) : Plain plan (.send plan.atCommand) :=
  fun _ _ _ isProof => (proper _ _ _ isProof).1

theorem plain_apply (proper : plan.Proper) {command : JsString}
    (isApply : plan.applyCommand = some command) : Plain plan (.send command) := by
  intro _ _ _ isProof
  rw [(proper _ _ _ isProof).2] at isApply
  cases isApply

/-! ### The evidence, part by part -/

theorem plain_enumerate : Plain plan .enumerate := trivial

theorem plain_sleep : Plain plan .sleep := trivial

variable {uid : JsString} {device : UsbDeviceSnapshot}
  {outcome : Except Failure UsbModeTransitionOutcome}

theorem sees_awaitPortDrop {polls : Nat} (track : Track plan [] [] history) :
    (self.awaitPortDrop uid polls).Ends (fun history outcome _ => OnOutcome
      (fun _ => ∃ before : List UsbDeviceSnapshot,
        (∀ device ∈ before, device.physicalUid ≠ some uid) ∧
          Track plan [⟨.enumerate, .ok before⟩] [] history)
      (fun _ => Track plan [] [] history) outcome) s history := by
  induction polls generalizing s history with
  | zero => exact track
  | succ polls ih =>
    refine ends_monad_bind.mpr <| ends_perform.mpr fun answer => ?_
    cases answer with
    | error => exact track.plain plain_enumerate
    | ok devices =>
      simp only [onOutcome_ok]
      split
      · exact ends_monad_bind.mpr fun answer => ih ((track.plain plain_enumerate).plain plain_sleep)
      · next gone =>
          refine ⟨devices, fun device mem isUid => gone ?_, track.note plain_enumerate⟩
          exact List.any_eq_true.mpr ⟨device, mem, decide_eq_true isUid⟩

theorem sees_awaitDevice {polls : Nat} (track : Track plan seen [] history) :
    (self.awaitDevice uid polls).Ends (fun history outcome _ => OnOutcome
      (fun device => ∃ after : List UsbDeviceSnapshot,
        (device ∈ after ∧ device.physicalUid = some uid) ∧
          Track plan (⟨.enumerate, .ok after⟩ :: seen) [] history)
      (fun _ => Track plan seen [] history) outcome) s history := by
  induction polls generalizing s history with
  | zero => exact track
  | succ polls ih =>
    refine ends_monad_bind.mpr <| ends_perform.mpr fun answer => ?_
    cases answer with
    | error => exact track.plain plain_enumerate
    | ok devices =>
      simp only [onOutcome_ok]
      split
      · next device found =>
          have isUid := List.find?_some found
          exact ⟨devices, ⟨List.mem_of_find?_eq_some found, of_decide_eq_true isUid⟩,
            track.note plain_enumerate⟩
      · exact ends_monad_bind.mpr fun answer => ih ((track.plain plain_enumerate).plain plain_sleep)

/-- A part that shows no evidence, and what comes after it. -/
theorem Track.bind {α β : Type} {p : TransitionTask β} {f : β → TransitionTask α}
    {Done : List TransitionEvent → Except Failure α → Locals → Prop}
    (track : Track plan seen replies history) (calls : p.Calls (Plain plan))
    (stop : ∀ history error s, Track plan seen replies history → Done history (.error error) s)
    (rest : ∀ value history s, Track plan seen replies history → (f value).Ends Done s history) :
    (p >>= f).Ends Done s history := by
  refine ends_monad_bind.mpr ((track_keeps calls s history track).mono
    fun history outcome s track => ?_)
  cases outcome with
  | ok value => exact rest value history s track
  | error error => exact stop history error s track

theorem sees_switchMode (proper : plan.Proper) {polls : Polls} (track : Track plan [] [] history) :
    (self.switchMode polls request (self.lease commands) plan).Ends
      (fun history outcome _ => OnOutcome
        (fun device => ∃ before after : List UsbDeviceSnapshot,
          (∀ device ∈ before, device.physicalUid ≠ some request.cachedPhysicalUid) ∧
          (device ∈ after ∧ device.physicalUid = some request.cachedPhysicalUid) ∧
          Track plan [⟨.enumerate, .ok after⟩, ⟨.enumerate, .ok before⟩] [] history)
        (fun _ => (ledger history).activated = []) outcome) s history := by
  have stop : ∀ {seen}, ∀ history (error : Failure) (s : Locals), Track plan seen [] history →
      (ledger history).activated = [] := fun _ _ _ track => track.activated
  refine track.bind calls_step stop fun _ _ _ track => ?_
  refine track.bind (calls_ask trivial) stop fun held _ _ track => ?_
  refine track.bind calls_modify stop fun _ _ _ track => ?_
  refine track.bind calls_step stop fun _ _ _ track => ?_
  refine track.bind (calls_run plain_routine fun _ => plain_send proper) stop fun _ _ _ track => ?_
  refine track.bind (calls_applySwitch plain_routine fun _ isApply _ =>
    plain_apply proper isApply) stop fun _ _ _ track => ?_
  refine track.bind calls_step stop fun _ _ _ track => ?_
  refine ends_monad_bind.mpr ((sees_awaitPortDrop track).mono fun _ outcome _ dropped => ?_)
  cases outcome with
  | error => exact dropped.activated
  | ok =>
    obtain ⟨before, gone, track⟩ := dropped
    refine track.bind calls_step stop fun _ _ _ track => ?_
    refine track.bind (calls_uninhibitHeld plain_routine) stop fun _ _ _ track => ?_
    refine track.bind calls_step stop fun _ _ _ track => ?_
    refine (sees_awaitDevice track).mono fun _ outcome _ found => ?_
    cases outcome with
    | error => exact found.activated
    | ok =>
      obtain ⟨after, found, track⟩ := found
      exact ⟨before, after, gone, found, track⟩

theorem silent_keeps {α : Type} {p : TransitionTask α} (calls : p.Calls (Plain plan)) :
    p.Keeps fun history _ => (ledger history).activated = [] :=
  calls.keeps fun plain _ _ _ silent => (activated_plain plain).trans silent

/-- A command that failed is recorded, and fails. -/
theorem ends_failed (plan : UsbModeTransitionPlan) {command uid : JsString} {error : Failure}
    (silent : (ledger history).activated = []) : (do
      if error.timedOut then (self.lease commands).onWatchdog
      (self.lease commands).record ⟨command, if error.timedOut then .timeout error.message
        else .error error.message, uid⟩
      .fail error : TransitionTask AtResponse).Ends (fun history outcome _ => OnOutcome
        (fun _ => False) (fun _ => (ledger history).activated = []) outcome) s history := by
  have recorded : ∀ {history s} {entry : AtAuditEntry}, (ledger history).activated = [] →
      ((self.lease commands).record entry >>= fun _ =>
        (.fail error : TransitionTask AtResponse)).Ends (fun history outcome _ => OnOutcome
          (fun _ => False) (fun _ => (ledger history).activated = []) outcome) s history := by
    intro history s entry silent
    have calls : ((self.lease commands).record entry).Calls (Plain plan) := calls_record plain_routine
    refine ends_monad_bind.mpr ((silent_keeps calls s history silent).mono
      fun _ outcome _ silent => ?_)
    cases outcome <;> exact silent
  refine ends_ite (fun _ => ?_) fun _ => recorded silent
  have calls : forceUninhibit.Calls (Plain plan) := calls_forceUninhibit plain_routine
  refine ends_monad_bind.mpr ((silent_keeps calls s history silent).mono
    fun _ outcome _ silent => ?_)
  cases outcome with
  | ok => exact recorded silent
  | error => exact silent

/-- The reply to the plan's READ, the only one of the run. -/
theorem sees_run {vendor : RuntimeCompositionVendor} {target : RuntimeCompositionMode}
    {currentQuery : JsString} (isProof : plan.proof = .runtimeRequery vendor target currentQuery)
    (track : Track plan seen [] history) :
    ((self.lease commands).run currentQuery uid).Ends (fun history outcome _ => OnOutcome
      (fun reply => Track plan (⟨.send currentQuery, .ok (some reply)⟩ :: seen) [reply] history)
      (fun _ => (ledger history).activated = []) outcome) s history := by
  have failed : ∀ {history s} {error : Failure}, (ledger history).activated = [] →
      (do
        if error.timedOut then (self.lease commands).onWatchdog
        (self.lease commands).record ⟨currentQuery, if error.timedOut then .timeout error.message
          else .error error.message, uid⟩
        .fail error : TransitionTask AtResponse).Ends (fun history outcome _ => OnOutcome
          (fun reply => Track plan (⟨.send currentQuery, .ok (some reply)⟩ :: seen) [reply] history)
          (fun _ => (ledger history).activated = []) outcome) s history := fun silent =>
    (ends_failed plan silent).mono fun _ outcome _ ended => by
      cases outcome with
      | ok => exact ended.elim
      | error => exact ended
  refine ends_ite (fun _ => ?_) fun _ => ?_
  · exact track.bind (calls_record plain_routine) (fun _ _ _ track => track.activated)
      fun _ _ _ track => track.activated
  · refine ends_catch.mpr <| ends_monad_bind.mpr <| ends_monad_bind.mpr <|
      ends_perform.mpr fun answer => ?_
    cases answer with
    | error => exact failed track.activated
    | ok reply =>
      cases reply with
      | none => exact failed track.activated
      | some reply =>
        have read : ∀ {called resumed}, Track plan
            (⟨.send currentQuery, .ok (some reply)⟩ :: seen) [reply]
            (⟨.send currentQuery, .ok (some reply), called, resumed⟩ :: history) := by
          intro called resumed
          refine ⟨track.seen.cons_cons _, track.activated, ?_⟩
          have before := track.readings
          simp only [readings, isProof] at before ⊢
          rw [List.filterMap_cons, before]
          simp only [if_true]
        refine Track.bind read (calls_record plain_routine) (fun _ _ _ track => failed track.activated)
          fun _ _ _ track => track

theorem sees_postcondition (track : Track plan seen [] history) :
    (transitionPostconditionFailure plan device (self.lease commands) uid).Ends
      (fun history outcome _ => (ledger history).activated = [] ∧ (outcome = .ok none →
        ∃ reading, Evidence.Confirmed plan device reading ∧
          Track plan (Evidence.readAnswers plan reading ++ seen) reading.toList history))
      s history := by
  unfold transitionPostconditionFailure
  split
  · next transition isProof =>
      refine ends_ite (fun confirmed => ?_) fun _ => ⟨track.activated, nofun⟩
      refine ⟨track.activated, fun _ => ⟨none, ?_, ?_⟩⟩
      · rw [Evidence.Confirmed, isProof]
        exact ⟨rfl, confirmed⟩
      · simp only [Evidence.readAnswers, isProof]
        exact track
  · next vendor target currentQuery isProof =>
      refine track.bind calls_step (fun _ _ _ track => ⟨track.activated, nofun⟩)
        fun _ _ _ track => ?_
      refine ends_monad_bind.mpr ((sees_run isProof track).mono fun _ outcome _ read => ?_)
      cases outcome with
      | error => exact ⟨read, nofun⟩
      | ok reply =>
        refine ends_ite (fun named => ?_) fun _ => ⟨read.activated, nofun⟩
        refine ⟨read.activated, fun _ => ⟨some reply, ?_, ?_⟩⟩
        · rw [Evidence.Confirmed, isProof]
          exact ⟨reply, rfl, named⟩
        · simp only [Evidence.readAnswers, isProof]
          exact read

/-! ### The whole run -/

/-- Either the run succeeded and has seen evidence, its receipt being the only one and
its reading the only reply to the READ; or it did not and activated nothing. -/
def Concluded (self : UsbModeTransition) (request : UsbModeTransitionRequest)
    (plan : UsbModeTransitionPlan) (outcome : Except Failure UsbModeTransitionOutcome)
    (history : List TransitionEvent) : Prop :=
  (∃ evidence : Evidence, outcome = .ok (.succeeded evidence.newIfname) ∧
    evidence.Seen self request plan history ∧
    (ledger history).activated = [evidence.receipt] ∧
    readings plan history = evidence.reading.toList) ∨
  (∀ newIfname, outcome ≠ .ok (.succeeded newIfname)) ∧ (ledger history).activated = []

theorem Concluded.plain (concluded : Concluded self request plan outcome history)
    (plain : Plain plan op) :
    Concluded self request plan outcome (⟨op, answer, called, resumed⟩ :: history) := by
  rcases concluded with ⟨evidence, succeeded, seen, activated, read⟩ | ⟨other, silent⟩
  · exact .inl ⟨evidence, succeeded, { seen with inOrder := seen.inOrder.cons _ },
      (activated_plain plain).trans activated, (readings_plain plain).trans read⟩
  · exact .inr ⟨other, (activated_plain plain).trans silent⟩

theorem concluded_keeps {α : Type} {p : TransitionTask α} (calls : p.Calls (Plain plan)) :
    p.Keeps fun history _ => Concluded self request plan outcome history :=
  calls.keeps fun plain _ _ _ concluded => concluded.plain plain

theorem sees_resolveIfname (track : Track plan seen replies history) :
    (self.resolveIfname device).Ends (fun history outcome _ => (ledger history).activated = [] ∧
      ∀ newIfname, outcome = .ok (some newIfname) →
        (self.portMapped = false → defaultResolveIfname device = some newIfname) ∧
        Track plan (Evidence.resolveAnswers self device newIfname ++ seen) replies history)
      s history := by
  refine ends_ite (fun mapped => ends_perform.mpr fun answer => ?_) fun unmapped => ?_
  · refine ⟨track.activated, ?_⟩
    rintro newIfname rfl
    refine ⟨fun unmapped => absurd (unmapped.symm.trans mapped) nofun, ?_⟩
    rw [Evidence.resolveAnswers, if_pos mapped]
    have plain : Plain plan (.resolveIfname device) := trivial
    exact track.note plain
  · refine ⟨track.activated, fun newIfname isDefault => ⟨fun _ => ?_, ?_⟩⟩
    · exact Except.ok.inj isDefault
    · rw [Evidence.resolveAnswers, if_neg unmapped]
      exact track

theorem sees_conclude {before after : List UsbDeviceSnapshot}
    (gone : ∀ device ∈ before, device.physicalUid ≠ some request.cachedPhysicalUid)
    (found : device ∈ after ∧ device.physicalUid = some request.cachedPhysicalUid)
    (track : Track plan [⟨.enumerate, .ok after⟩, ⟨.enumerate, .ok before⟩] [] history) :
    (self.conclude request (self.lease commands) plan device).Ends (fun history outcome _ =>
      Concluded self request plan outcome history) s history := by
  refine track.bind calls_step (fun _ _ _ track => .inr ⟨nofun, track.activated⟩)
    fun _ _ _ track => ?_
  refine ends_monad_bind.mpr ((sees_postcondition track).mono fun _ failure _ ⟨silent, shown⟩ => ?_)
  cases failure with
  | error => exact .inr ⟨nofun, silent⟩
  | ok failure =>
    cases failure with
    | some => exact .inr ⟨nofun, silent⟩
    | none =>
      obtain ⟨reading, confirmed, track⟩ := shown rfl
      refine track.bind calls_step (fun _ _ _ track => .inr ⟨nofun, track.activated⟩)
        fun _ _ _ track => ?_
      refine ends_monad_bind.mpr ((sees_resolveIfname track).mono
        fun _ ifname _ ⟨silent, shown⟩ => ?_)
      cases ifname with
      | error => exact .inr ⟨nofun, silent⟩
      | ok ifname =>
        cases ifname with
        | none => exact .inr ⟨nofun, silent⟩
        | some newIfname =>
          obtain ⟨resolved, track⟩ := shown newIfname rfl
          refine track.bind calls_step
            (fun _ _ _ track => .inr ⟨nofun, track.activated⟩) fun _ _ _ track => ?_
          refine ends_monad_bind.mpr <| ends_perform.mpr fun answer => ?_
          cases answer with
          | error => exact .inr ⟨nofun, track.activated⟩
          | ok receipt =>
            refine .inl ⟨⟨before, after, device, reading, newIfname, receipt⟩, rfl,
              ⟨gone, found, confirmed, resolved, track.seen.cons_cons _⟩,
              congrArg (List.cons receipt) track.activated, ?_⟩
            rw [← track.readings]
            simp only [readings]
            split <;> rfl

theorem resolves_forceUninhibit :
    forceUninhibit.Ends (fun _ outcome _ => outcome = .ok ()) s history := by
  refine ends_monad_bind.mpr <| ends_monad_bind.mpr ?_
  cases s.inhibit with
  | none => rfl
  | some => exact fun answer => rfl

/-- The old connection is restored without fail, and says nothing new. -/
theorem concluded_restore {quiesce : QuiesceLease}
    (concluded : Concluded self request plan outcome history) :
    (UsbModeTransition.restore quiesce).Ends (fun history cleaned _ => OnOutcome
      (fun _ => Concluded self request plan outcome history)
      (fun error => Concluded self request plan (.error error) history) cleaned) s history := by
  have resolves : (UsbModeTransition.restore quiesce).Ends
      (fun _ cleaned _ => cleaned = .ok ()) s history := by
    refine ends_monad_bind.mpr (resolves_forceUninhibit.mono fun _ given _ done => ?_)
    subst done
    exact ends_monad_bind.mpr <| ends_ite (fun _ => rfl) fun _ _ => rfl
  refine ((concluded_keeps (calls_restore plain_routine trivial) s history concluded).and resolves).mono ?_
  rintro _ _ _ ⟨concluded, rfl⟩
  exact concluded

theorem concluded_recover {error : Failure} (silent : (ledger history).activated = []) :
    (UsbModeTransition.recover error).Ends (fun history outcome _ =>
      Concluded self request plan outcome history) s history := by
  have resolves : (UsbModeTransition.recover error).Ends
      (fun _ outcome _ => outcome = .ok (.failed true error.message)) s history := by
    refine ends_monad_bind.mpr (resolves_forceUninhibit.mono fun _ given _ done => ?_)
    subst done
    exact fun answer => rfl
  have calls : (UsbModeTransition.recover error).Calls (Plain plan) := calls_recover plain_routine
  refine ((silent_keeps calls s history silent).and resolves).mono ?_
  rintro _ _ _ ⟨silent, rfl⟩
  exact .inr ⟨nofun, silent⟩

theorem sees_runTransaction (proper : plan.Proper) {polls : Polls}
    (track : Track plan [] [] history) :
    (self.runTransaction polls request commands plan).Ends (fun history outcome _ =>
      Concluded self request plan outcome history) s history := by
  refine track.bind calls_step (fun _ _ _ track => .inr ⟨nofun, track.activated⟩)
    fun _ _ _ track => ?_
  refine track.bind (calls_ask trivial) (fun _ _ _ track => .inr ⟨nofun, track.activated⟩)
    fun quiesce _ _ track => ?_
  have recovered : ∀ {history s error}, (ledger history).activated = [] →
      (UsbModeTransition.recover error).Ends (fun history outcome s =>
        (UsbModeTransition.restore quiesce).Ends (fun history cleaned _ => OnOutcome
          (fun _ => Concluded self request plan outcome history)
          (fun error => Concluded self request plan (.error error) history) cleaned) s history)
        s history := fun silent =>
    (concluded_recover silent).mono fun _ _ _ concluded => concluded_restore concluded
  refine ends_ensuring.mpr <| ends_catch.mpr <| ends_monad_bind.mpr ?_
  refine (sees_switchMode proper track).mono fun _ device _ switched => ?_
  cases device with
  | error => exact recovered switched
  | ok =>
    obtain ⟨before, after, gone, found, track⟩ := switched
    refine (sees_conclude gone found track).mono fun _ outcome _ concluded => ?_
    cases outcome with
    | ok => exact concluded_restore concluded
    | error =>
      rcases concluded with ⟨evidence, succeeded, -⟩ | ⟨-, silent⟩
      · cases succeeded
      · exact recovered silent

theorem plan_of_check (isResult : staticResult self.catalog request = .accepted plan commands) :
    (checkTransitionPreconditions self.catalog request).Ends (fun _ outcome _ =>
      ∀ granted allowed, outcome = .ok (.accepted granted allowed) →
        granted = plan ∧ allowed = commands) s history := by
  unfold checkTransitionPreconditions
  rw [isResult]
  refine ends_monad_bind.mpr <| ends_perform.mpr fun confidence => ?_
  cases confidence with
  | error => exact nofun
  | ok =>
    refine onOutcome_ok.mpr (ends_ite (fun _ => nofun) fun _ => ?_)
    refine ends_monad_bind.mpr <| ends_perform.mpr fun verdict => ?_
    cases verdict with
    | error => exact nofun
    | ok verdict =>
      cases verdict with
      | deny => exact nofun
      | allow =>
        rintro granted allowed ⟨⟩
        exact ⟨rfl, rfl⟩

/-- Both checks of the preconditions: either the request is refused, or it goes on with
its plan. -/
theorem Track.check {α : Type}
    (isResult : staticResult self.catalog request = .accepted plan commands)
    (track : Track plan [] [] history) {f : PreconditionResult → TransitionTask α}
    {Done : List TransitionEvent → Except Failure α → Locals → Prop}
    (stop : ∀ history error s, Track plan [] [] history → Done history (.error error) s)
    (refused : ∀ reason history s, Track plan [] [] history →
      (f (.refused reason)).Ends Done s history)
    (accepted : ∀ history s, Track plan [] [] history →
      (f (.accepted plan commands)).Ends Done s history) :
    (checkTransitionPreconditions self.catalog request >>= f).Ends Done s history := by
  refine ends_monad_bind.mpr (((track_keeps (calls_check plain_routine) s history track).and
    (plan_of_check isResult)).mono fun history outcome s ⟨track, granted⟩ => ?_)
  cases outcome with
  | error error => exact stop history error s track
  | ok result =>
    cases result with
    | refused reason => exact refused reason history s track
    | accepted other allowed =>
      obtain ⟨rfl, rfl⟩ := granted other allowed rfl
      exact accepted history s track

theorem sees_execute (isResult : staticResult self.catalog request = .accepted plan commands)
    (polls : Polls) : (self.execute polls request).Ends (fun history outcome _ =>
      Concluded self request plan outcome history) .start [] := by
  have proper := proper_staticResult isResult
  have nothing : Track plan [] [] [] := by
    refine ⟨List.Sublist.refl _, rfl, ?_⟩
    unfold readings
    split <;> rfl
  have stop : ∀ history (error : Failure) (s : Locals), Track plan [] [] history →
      Concluded self request plan (.error error) history :=
    fun _ _ _ track => .inr ⟨nofun, track.activated⟩
  refine nothing.check isResult stop (fun _ _ _ track => .inr ⟨nofun, track.activated⟩)
    fun _ _ track => ?_
  refine track.bind (calls_attempt trivial) stop fun _ _ _ track => ?_
  refine track.bind calls_step stop fun _ _ _ track => ?_
  refine track.check isResult stop (fun _ _ _ track => .inr ⟨nofun, track.activated⟩)
    fun _ _ track => ?_
  refine track.bind (calls_ask trivial) stop fun _ _ _ track => ?_
  refine ends_ensuring.mpr <| (sees_runTransaction proper track).mono
    fun history outcome s concluded => ?_
  intro answer
  have plain : Plain plan .releaseHold := trivial
  exact concluded.plain plain

end Parts

/-! ### Reading the history -/

theorem activated_enter (ledger : Ledger) (event : TransitionEvent) :
    (ledger.enter event).activated = ledger.activated ∨
      ∃ id ifname receipt, (⟨event.op, event.answer⟩ : Answered) =
          ⟨.activate id ifname, .ok receipt⟩ ∧
        (ledger.enter event).activated = receipt :: ledger.activated := by
  obtain ⟨op, answer, called, resumed⟩ := event
  cases op with
  | activate id ifname =>
    cases answer with
    | error => exact .inl rfl
    | ok receipt => exact .inr ⟨id, ifname, receipt, rfl, rfl⟩
  | _ => exact .inl (by cases answer <;> rfl)

variable {history : List TransitionEvent}

theorem mem_answers_activate {receipt : Receipt} :
    (∃ id ifname, (⟨.activate id ifname, .ok receipt⟩ : Answered) ∈ answers history) ↔
      receipt ∈ (ledger history).activated := by
  induction history with
  | nil => exact ⟨fun ⟨_, _, mem⟩ => absurd mem List.not_mem_nil, nofun⟩
  | cons event history ih =>
    constructor
    · rintro ⟨id, ifname, mem⟩
      rcases List.mem_cons.mp mem with same | mem
      · obtain ⟨op, answer, called, resumed⟩ := event
        cases same
        exact List.mem_cons_self
      · have earlier := ih.mp ⟨id, ifname, mem⟩
        rcases activated_enter (ledger history) event with same | ⟨_, _, _, -, more⟩
        · exact same ▸ earlier
        · exact more ▸ List.mem_cons_of_mem _ earlier
    · intro mem
      rcases activated_enter (ledger history) event with same | ⟨id, ifname, other, isEvent, more⟩
      · obtain ⟨id, ifname, earlier⟩ := ih.mpr (same ▸ mem)
        exact ⟨id, ifname, List.mem_cons_of_mem _ earlier⟩
      · rcases List.mem_cons.mp (more ▸ mem) with rfl | mem
        · exact ⟨id, ifname, isEvent ▸ List.mem_cons_self⟩
        · obtain ⟨id, ifname, earlier⟩ := ih.mpr mem
          exact ⟨id, ifname, List.mem_cons_of_mem _ earlier⟩

theorem mem_answers_read {vendor : RuntimeCompositionVendor} {target : RuntimeCompositionMode}
    {currentQuery : JsString} (isProof : plan.proof = .runtimeRequery vendor target currentQuery)
    {reply : AtResponse}
    (mem : (⟨.send currentQuery, .ok (some reply)⟩ : Answered) ∈ answers history) :
    reply ∈ readings plan history := by
  obtain ⟨⟨op, answer, called, resumed⟩, isMem, same⟩ := List.mem_map.mp mem
  cases same
  simp only [readings, isProof]
  exact List.mem_filterMap.mpr ⟨_, isMem, if_pos rfl⟩

/-- With the evidence of a run at hand, its success is earned exactly when it is vouched
for. -/
theorem Evidence.Seen.earned_iff {self : UsbModeTransition} {request : UsbModeTransitionRequest}
    {commands : List JsString} {evidence : Evidence}
    (isResult : staticResult self.catalog request = .accepted plan commands)
    (seen : evidence.Seen self request plan history)
    (activated : (ledger history).activated = [evidence.receipt])
    (read : readings plan history = evidence.reading.toList) :
    Earned self request evidence.newIfname history ↔ Vouched plan history := by
  constructor
  · rintro ⟨other, allowed, shown, isOther, -, shownSeen, replies, applied⟩
    obtain ⟨rfl, rfl⟩ := PreconditionResult.accepted.inj (isResult.symm.trans isOther)
    constructor
    · intro id ifname receipt mem
      have isReceipt := mem_answers_activate.mp ⟨id, ifname, mem⟩
      have isShown := mem_answers_activate.mp ⟨_, _, shownSeen.inOrder.subset List.mem_cons_self⟩
      rw [activated, List.mem_singleton] at isReceipt isShown
      rw [isReceipt, ← isShown]
      exact applied
    · intro vendor target currentQuery isProof reply mem
      have isReply := mem_answers_read isProof mem
      have confirmed := shownSeen.confirmed
      simp only [Confirmed, isProof] at confirmed
      obtain ⟨shownReply, isReading, -⟩ := confirmed
      have shownMem : (⟨.send currentQuery, .ok (some shownReply)⟩ : Answered) ∈
          shown.answers self request plan := by
        refine List.mem_cons_of_mem _ (List.mem_append_right _ (List.mem_append_left _ ?_))
        simp only [readAnswers, isProof, isReading]
        exact List.mem_cons_self
      have isShown := mem_answers_read isProof (shownSeen.inOrder.subset shownMem)
      rw [read, Option.mem_toList] at isReply isShown
      rw [Option.mem_unique isReply isShown]
      exact replies shownReply isReading
  · rintro ⟨applied, replies⟩
    refine ⟨plan, commands, evidence, isResult, rfl, seen, fun reply isReading => ?_,
      applied _ _ _ (seen.inOrder.subset List.mem_cons_self)⟩
    have confirmed := seen.confirmed
    unfold Confirmed at confirmed
    split at confirmed
    · rw [confirmed.1] at isReading
      cases isReading
    · next vendor target currentQuery isProof =>
        refine replies vendor target currentQuery isProof reply (seen.inOrder.subset ?_)
        refine List.mem_cons_of_mem _ (List.mem_append_right _ (List.mem_append_left _ ?_))
        simp only [readAnswers, isProof, Option.mem_def.mp isReading]
        exact List.mem_cons_self

/-- A `succeeded` of the transition is earned exactly in the runs in which no activation
was answered, or nothing unread was negative. -/
theorem succeeded_earned (self : UsbModeTransition) (polls : Polls)
    (request : UsbModeTransitionRequest) (world : Async.World Locals Call Call.Answer Failure) :
    (∀ newIfname, ((self.execute polls request).drive world .start []).outcome =
        .ok (.succeeded newIfname) →
      Earned self request newIfname ((self.execute polls request).drive world .start []).history) ↔
    (Activated ((self.execute polls request).drive world .start []).history →
      ∀ plan commands, staticResult self.catalog request = .accepted plan commands →
        Vouched plan ((self.execute polls request).drive world .start []).history) := by
  cases isResult : staticResult self.catalog request with
  | refused reason =>
    have refused : self.execute polls request = pure (.refused .entry reason) := by
      rw [UsbModeTransition.execute, checkTransitionPreconditions, isResult]
      rfl
    rw [refused]
    exact ⟨fun _ _ _ _ => nofun, fun _ _ => nofun⟩
  | accepted plan commands =>
    have concluded := (sees_execute isResult polls).drive world
    generalize (self.execute polls request).drive world .start [] = run at concluded ⊢
    rcases concluded with ⟨evidence, succeeded, seen, activated, read⟩ | ⟨other, silent⟩
    · have earned := seen.earned_iff isResult activated read
      constructor
      · rintro earn - _ _ ⟨⟩
        exact earned.mp (earn _ succeeded)
      · intro vouched newIfname isOutcome
        cases succeeded.symm.trans isOutcome
        have active : Activated run.history :=
          ⟨_, _, _, seen.inOrder.subset List.mem_cons_self⟩
        exact earned.mpr (vouched active plan commands rfl)
    · refine ⟨fun _ ⟨id, ifname, receipt, mem⟩ => ?_, fun _ newIfname isOutcome => ?_⟩
      · have isMem := mem_answers_activate.mp ⟨id, ifname, mem⟩
        exact absurd (silent ▸ isMem) List.not_mem_nil
      · exact absurd isOutcome (other newIfname)

/-- The activation is answered `failed`, or the reply to the READ is an error that still
names the target: the run succeeds, since neither is looked at. -/
theorem succeeded_earned_fails :
    (((bench.execute ⟨1, 1⟩ benchRequest).drive (benchWorld (.ok ()) .failed true)
        .start []).outcome = .ok (.succeeded (js "wwan1")) ∧
      ¬ Earned bench benchRequest (js "wwan1")
        ((bench.execute ⟨1, 1⟩ benchRequest).drive (benchWorld (.ok ()) .failed true)
          .start []).history) ∧
    ((bench.execute ⟨1, 1⟩ benchRuntimeRequest).drive (benchWorld (.ok ()) .applied false)
        .start []).outcome = .ok (.succeeded (js "wwan1")) ∧
      ¬ Earned bench benchRuntimeRequest (js "wwan1")
        ((bench.execute ⟨1, 1⟩ benchRuntimeRequest).drive (benchWorld (.ok ()) .applied false)
          .start []).history := by
  refine ⟨⟨by decide, ?_⟩, by decide +kernel, ?_⟩
  · rintro ⟨plan, commands, evidence, -, -, seen, -, applied⟩
    have isMem := mem_answers_activate.mp ⟨_, _, seen.inOrder.subset List.mem_cons_self⟩
    have only : (ledger ((bench.execute ⟨1, 1⟩ benchRequest).drive
        (benchWorld (.ok ()) .failed true) .start []).history).activated = [⟨.failed, []⟩] := by
      decide
    rw [only, List.mem_singleton] at isMem
    rw [isMem] at applied
    cases applied
  · rintro ⟨plan, commands, evidence, isResult, -, seen, replies, -⟩
    have planned : staticResult bench.catalog benchRuntimeRequest =
        requeryPlan .fibocom (.number (.finite 40)) (js "AT+GTUSBMODE=40") := by decide +kernel
    obtain ⟨rfl, rfl⟩ := PreconditionResult.accepted.inj (planned.symm.trans isResult)
    obtain ⟨reply, isReading, -⟩ := seen.confirmed
    have shown : (⟨.send (js "AT+GTUSBMODE?"), .ok (some reply)⟩ : Answered) ∈
        answers ((bench.execute ⟨1, 1⟩ benchRuntimeRequest).drive
          (benchWorld (.ok ()) .applied false) .start []).history := by
      refine seen.inOrder.subset (List.mem_cons_of_mem _ (List.mem_append_right _
        (List.mem_append_left _ ?_)))
      rw [isReading]
      exact List.mem_cons_self
    have isReply : reply ∈ readings ⟨js "AT+GTUSBMODE=40", none,
        .runtimeRequery .fibocom (.number (.finite 40)) (js "AT+GTUSBMODE?")⟩ _ :=
      mem_answers_read rfl shown
    have only : readings ⟨js "AT+GTUSBMODE=40", none,
        .runtimeRequery .fibocom (.number (.finite 40)) (js "AT+GTUSBMODE?")⟩
        ((bench.execute ⟨1, 1⟩ benchRuntimeRequest).drive (benchWorld (.ok ()) .applied false)
          .start []).history = [⟨false, js "+GTUSBMODE: 40"⟩] := by decide +kernel
    rw [only, List.mem_singleton] at isReply
    have ok := replies reply isReading
    rw [isReply] at ok
    cases ok

end ModemStack.Backend
