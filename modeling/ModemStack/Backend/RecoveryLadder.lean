import ModemStack.Backend.ModemActor
import ModemStack.Backend.RecoveryBudget

/-!
The evidence-gated recovery ladder, over the shared actor and the lifecycle interlock.

An event is a call, or the answer to what a run awaits. The interlock settles its verdict by
the holds of that moment (`decided`); the run goes on a turn later (`told`). The other tasks of
the actor run alongside.
-/

namespace ModemStack.Backend

open ModemStack.Async ModemStack.Text

structure DesiredRecovery where
  enabled : Bool
deriving DecidableEq

inductive FaultAttribution where
  | modemFault
  | networkFault
  | indeterminate
deriving DecidableEq

def FaultAttribution.text : FaultAttribution → JsString
  | .modemFault => js "modem-fault"
  | .networkFault => js "network-fault"
  | .indeterminate => js "indeterminate"

inductive RecoveryRung where
  | nmCycle
  | mmCycle
  | reset
  | powerCycle
deriving DecidableEq

def LADDER_ORDER : List RecoveryRung := [.nmCycle, .mmCycle, .reset, .powerCycle]

def RecoveryRung.text : RecoveryRung → JsString
  | .nmCycle => js "nmCycle"
  | .mmCycle => js "mmCycle"
  | .reset => js "reset"
  | .powerCycle => js "powerCycle"

structure RecoveryStepGate where
  allowDisruptive : Bool

structure RecoveryLadderConfig where
  nmCycle : RecoveryStepGate
  mmCycle : RecoveryStepGate
  reset : RecoveryStepGate
  powerCycle : RecoveryStepGate
  budget : RecoveryBudget

def DEFAULT_LADDER_CONFIG : RecoveryLadderConfig :=
  ⟨⟨true⟩, ⟨true⟩, ⟨true⟩, ⟨true⟩, DEFAULT_RECOVERY_BUDGET⟩

/-- `config[rung]` -/
def RecoveryLadderConfig.gate (config : RecoveryLadderConfig) : RecoveryRung → RecoveryStepGate
  | .nmCycle => config.nmCycle
  | .mmCycle => config.mmCycle
  | .reset => config.reset
  | .powerCycle => config.powerCycle

inductive StepStatus where
  | applied
  | unsupported
  | failed
  | skipped
  | blocked
deriving DecidableEq

structure StepOutcome where
  applied : Bool
  reason : JsString

inductive PowerStatus where
  | applied
  | unsupported
  | failed
deriving DecidableEq

def PowerStatus.step : PowerStatus → StepStatus
  | .applied => .applied
  | .unsupported => .unsupported
  | .failed => .failed

structure PowerCycleResult where
  status : PowerStatus
  reason : JsString

structure RecoveryStepReport where
  rung : RecoveryRung
  status : StepStatus
  reason : JsString

inductive RecoveryOutcomeKind where
  | disabled
  | notAttributed
  | cooldown
  | loopStop
  | interlockBlocked
  | recovered
  | exhausted
deriving DecidableEq

structure RecoveryOutcome where
  kind : RecoveryOutcomeKind
  attribution : FaultAttribution
  steps : List RecoveryStepReport
  degraded : Bool
  reason : JsString

structure RecoveryRequest where
  stableKey : JsString
  attribution : FaultAttribution
  now : Int

/-! ### Runs -/

namespace RecoveryLadder

/-- What a run awaits: the verdict on a rung, its own turn after the verdict (a denial with its
reason), the step of a rung in the actor, the power hook or the health probe. `rest` are the
rungs that follow. -/
inductive Phase (ε : Type) where
  | asking (rung : RecoveryRung) (rest : List RecoveryRung)
  | told (rung : RecoveryRung) (rest : List RecoveryRung) (denial : Option JsString)
  | inActor (rung : RecoveryRung) (rest : List RecoveryRung) (call : Nat)
  | powering (rest : List RecoveryRung)
  | probing (rung : RecoveryRung) (rest : List RecoveryRung)
  | ended (outcome : RecoveryOutcome)
  | rejected (error : ε)

/-- A call of `run`. Kept for the proofs: `round`, how many recovered outcomes its modem had had
when it was requested; the decision of the budget, if it came to one; the calls to the actor it
has made; the round in which it last came to execute a rung. -/
structure Run (ε : Type) where
  recovery : DesiredRecovery
  request : RecoveryRequest
  phase : Phase ε
  steps : List RecoveryStepReport
  round : Nat
  decision : Option BudgetDecision
  calls : List Nat
  reached : Option Nat

/-- What the run has come to: the next rung it asks about, or the end of the ladder. -/
inductive Next where
  | ask (rung : RecoveryRung) (rest : List RecoveryRung)
  | exhausted

/-- Pass over the rungs that are not allowed, reporting each as skipped. -/
def nextRung (config : RecoveryLadderConfig) : List RecoveryRung → Next × List RecoveryStepReport
  | [] => (.exhausted, [])
  | rung :: rest =>
    if (config.gate rung).allowDisruptive then (.ask rung rest, [])
    else
      let (next, skipped) := nextRung config rest
      (next, ⟨rung, .skipped, js "allowDisruptive is false"⟩ :: skipped)

inductive Event (ε : Type) where
  | run (recovery : DesiredRecovery) (request : RecoveryRequest)
  | decided (id : Nat)
  | undecided (id : Nat) (error : ε)
  | told (id : Nat)
  | stepped (id : Nat)
  | cycled (id : Nat) (answer : Except ε PowerCycleResult)
  | probed (id : Nat) (answer : Except ε Bool)
  | actor (event : ModemActor.Event ε (Option StepOutcome))
  | beginHold (stableKey : JsString) (reason : JsString)
  | endHold (stableKey : JsString)
  | clear (stableKey : JsString)

end RecoveryLadder

/-- The ladder, the actor and the holds of the interlock, each with the reason it denies with.
A task of the actor that is no rung of the ladder resolves with `none`. Kept for the proofs:
every run, and how many recovered outcomes each modem has had. -/
structure RecoveryLadder (ε : Type) where
  states : JsString → Option RecoveryBudgetState
  actor : ModemActor ε (Option StepOutcome)
  holds : JsString → Option JsString
  runs : Nat → Option (RecoveryLadder.Run ε)
  requested : Nat
  recoveries : JsString → Nat

namespace RecoveryLadder

variable {ε : Type}

def new : RecoveryLadder ε where
  states _ := none
  actor := .new
  holds _ := none
  runs _ := none
  requested := 0
  recoveries _ := 0

def budgetStateFor (l : RecoveryLadder ε) (stableKey : JsString) : RecoveryBudgetState :=
  (l.states stableKey).getD INITIAL_BUDGET_STATE

def setState (l : RecoveryLadder ε) (stableKey : JsString) (state : RecoveryBudgetState) :
    RecoveryLadder ε :=
  { l with states := Function.update l.states stableKey (some state) }

def clear (l : RecoveryLadder ε) (stableKey : JsString) : RecoveryLadder ε :=
  { l with states := Function.update l.states stableKey none }

def put (l : RecoveryLadder ε) (id : Nat) (run : Run ε) : RecoveryLadder ε :=
  { l with runs := Function.update l.runs id (some run) }

/-- `#end` -/
def endRun (l : RecoveryLadder ε) (id : Nat) (run : Run ε) (kind : RecoveryOutcomeKind)
    (steps : List RecoveryStepReport) (reason : JsString) : RecoveryLadder ε :=
  l.put id { run with
    steps
    phase := .ended ⟨kind, run.request.attribution, steps,
      (l.budgetStateFor run.request.stableKey).degraded, reason⟩ }

/-- The loop of `#runRungs` from the rungs that are left to the next await. -/
def runRungs (config : RecoveryLadderConfig) (l : RecoveryLadder ε) (id : Nat) (run : Run ε)
    (steps : List RecoveryStepReport) (rungs : List RecoveryRung) : RecoveryLadder ε :=
  match nextRung config rungs with
  | (.ask rung rest, skipped) =>
    l.put id { run with phase := .asking rung rest, steps := steps ++ skipped }
  | (.exhausted, skipped) =>
    l.endRun id run .exhausted (steps ++ skipped)
      (js "ladder exhausted without restoring health")

/-- `run`, to its first await. -/
def request (config : RecoveryLadderConfig) (l : RecoveryLadder ε) (recovery : DesiredRecovery)
    (request : RecoveryRequest) : RecoveryLadder ε :=
  let stableKey := request.stableKey
  let id := l.requested
  let run : Run ε := ⟨recovery, request, .asking .nmCycle [], [], l.recoveries stableKey, none, [],
    none⟩
  let l := { l with requested := id + 1 }
  if recovery.enabled = false then
    l.endRun id run .disabled [] (js "recovery disabled by policy")
  else if request.attribution ≠ .modemFault then
    l.endRun id run .notAttributed []
      (js "attribution '" ++ request.attribution.text ++ js "' is never disruptive")
  else
    let decision := beginAttempt (l.budgetStateFor stableKey) config.budget request.now
    let run := { run with decision := some decision }
    match decision with
    | .loopStop state =>
      (l.setState stableKey state).endRun id run .loopStop []
        (js "recovery budget exhausted — modem marked degraded")
    | .cooldown _ _ => l.endRun id run .cooldown [] (js "within cooldown window — attempt refused")
    | .proceed state => (l.setState stableKey state).runRungs config id run [] LADDER_ORDER

def reject (l : RecoveryLadder ε) (id : Nat) (run : Run ε) (error : ε) : RecoveryLadder ε :=
  l.put id { run with phase := .rejected error }

/-- `#runRung`, to its first await: the power hook is called at once, a step is queued in the
actor. -/
def runRung (l : RecoveryLadder ε) (id : Nat) (run : Run ε) (rung : RecoveryRung)
    (rest : List RecoveryRung) : RecoveryLadder ε :=
  let reached := some (l.recoveries run.request.stableKey)
  match rung with
  | .powerCycle => l.put id { run with phase := .powering rest, reached }
  | rung =>
    let call := l.actor.submitted
    { l.put id { run with
        phase := .inActor rung rest call, calls := call :: run.calls, reached } with
      actor := l.actor.enqueue run.request.stableKey false }

/-- A rung has been executed: its report is added and, if it was applied, the probe asked. -/
def report (config : RecoveryLadderConfig) (l : RecoveryLadder ε) (id : Nat) (run : Run ε)
    (rung : RecoveryRung) (rest : List RecoveryRung) (status : StepStatus) (reason : JsString) :
    RecoveryLadder ε :=
  let steps := run.steps ++ [⟨rung, status, reason⟩]
  if status = .applied then l.put id { run with phase := .probing rung rest, steps }
  else l.runRungs config id run steps rest

def decide (l : RecoveryLadder ε) (id : Nat) (run : Run ε) : RecoveryLadder ε :=
  match run.phase with
  | .asking rung rest =>
    l.put id { run with phase := .told rung rest (l.holds run.request.stableKey) }
  | _ => l

def tell (l : RecoveryLadder ε) (id : Nat) (run : Run ε) : RecoveryLadder ε :=
  match run.phase with
  | .told rung _ (some reason) =>
    l.endRun id run .interlockBlocked (run.steps ++ [⟨rung, .blocked, reason⟩])
      (js "interlock blocked '" ++ rung.text ++ js "': " ++ reason)
  | .told rung rest none => l.runRung id run rung rest
  | _ => l

/-- The actor's promise has settled and the run goes on. -/
def stepped (config : RecoveryLadderConfig) (l : RecoveryLadder ε) (id : Nat) (run : Run ε) :
    RecoveryLadder ε :=
  match run.phase with
  | .inActor rung rest call =>
    match (l.actor.calls call).map ModemActor.Call.stage with
    | some (.settled (.error error)) => l.reject id run error
    | some (.settled (.ok (some outcome))) =>
      l.report config id run rung rest (if outcome.applied then .applied else .failed)
        outcome.reason
    | _ => l
  | _ => l

def cycled (config : RecoveryLadderConfig) (l : RecoveryLadder ε) (id : Nat) (run : Run ε)
    (answer : Except ε PowerCycleResult) : RecoveryLadder ε :=
  match run.phase, answer with
  | .powering _, .error error => l.reject id run error
  | .powering rest, .ok result =>
    l.report config id run .powerCycle rest result.status.step result.reason
  | _, _ => l

def probed (config : RecoveryLadderConfig) (l : RecoveryLadder ε) (id : Nat) (run : Run ε)
    (answer : Except ε Bool) : RecoveryLadder ε :=
  match run.phase, answer with
  | .probing _ _, .error error => l.reject id run error
  | .probing _ rest, .ok false => l.runRungs config id run run.steps rest
  | .probing rung _, .ok true =>
    let stableKey := run.request.stableKey
    { l.setState stableKey markRecovered with
      recoveries := Function.update l.recoveries stableKey (l.recoveries stableKey + 1)
    }.endRun id run .recovered run.steps (js "recovered at rung '" ++ rung.text ++ js "'")
  | _, _ => l

def undecided (l : RecoveryLadder ε) (id : Nat) (run : Run ε) (error : ε) : RecoveryLadder ε :=
  match run.phase with
  | .asking _ _ => l.reject id run error
  | _ => l

def onRun (l : RecoveryLadder ε) (id : Nat) (go : Run ε → RecoveryLadder ε) : RecoveryLadder ε :=
  match l.runs id with
  | some run => go run
  | none => l

def step (config : RecoveryLadderConfig) (l : RecoveryLadder ε) : Event ε → RecoveryLadder ε
  | .run recovery request => l.request config recovery request
  | .decided id => l.onRun id (l.decide id)
  | .undecided id error => l.onRun id (l.undecided id · error)
  | .told id => l.onRun id (l.tell id)
  | .stepped id => l.onRun id (l.stepped config id)
  | .cycled id answer => l.onRun id (l.cycled config id · answer)
  | .probed id answer => l.onRun id (l.probed config id · answer)
  | .actor event => { l with actor := l.actor.step event }
  | .beginHold stableKey reason =>
    { l with holds := Function.update l.holds stableKey (some reason) }
  | .endHold stableKey => { l with holds := Function.update l.holds stableKey none }
  | .clear stableKey => l.clear stableKey

def run (config : RecoveryLadderConfig) (events : List (Event ε)) : RecoveryLadder ε :=
  events.foldl (step config) new

/-! ### What a turn of a run does -/

/-- Nothing of the run is being executed. -/
def Phase.Idle : Phase ε → Prop
  | .asking _ _ | .probing _ _ | .rejected _ => True
  | .ended outcome => outcome.kind = .interlockBlocked ∨ outcome.kind = .exhausted
  | .told _ _ _ | .inActor _ _ _ | .powering _ => False

/-- The run has neither ended nor rejected. -/
def Phase.Live : Phase ε → Prop
  | .ended _ | .rejected _ => False
  | _ => True

/-- The call a run awaits has settled. -/
def Phase.Stepped (l : RecoveryLadder ε) (phase : Phase ε) : Prop :=
  ∀ rung rest call, phase = .inActor rung rest call →
    ∃ settled result, l.actor.calls call = some settled ∧ settled.stage = .settled result

/-- The turns of a run. -/
inductive Turned (l : RecoveryLadder ε) (id : Nat) (run : Run ε) : RecoveryLadder ε → Prop where
  | same : Turned l id run l
  | decided (rung : RecoveryRung) (rest : List RecoveryRung) (asks : run.phase = .asking rung rest) :
      Turned l id run
        (l.put id { run with phase := .told rung rest (l.holds run.request.stableKey) })
  | powers (rest : List RecoveryRung) (allowed : run.phase = .told .powerCycle rest none) :
      Turned l id run (l.put id { run with
          phase := .powering rest
          reached := some (l.recoveries run.request.stableKey) })
  | queues (rung : RecoveryRung) (rest : List RecoveryRung)
      (allowed : run.phase = .told rung rest none) :
      Turned l id run { l.put id { run with
          phase := .inActor rung rest l.actor.submitted
          calls := l.actor.submitted :: run.calls
          reached := some (l.recoveries run.request.stableKey) } with
        actor := l.actor.enqueue run.request.stableKey false }
  | idles (phase : Phase ε) (steps : List RecoveryStepReport) (live : run.phase.Live)
      (stepped : run.phase.Stepped l) (idle : phase.Idle) :
      Turned l id run (l.put id { run with phase, steps })
  | recovers (rung : RecoveryRung) (rest : List RecoveryRung)
      (probes : run.phase = .probing rung rest) (outcome : RecoveryOutcome)
      (kind : outcome.kind = .recovered) :
      Turned l id run ({ l.setState run.request.stableKey markRecovered with
          recoveries := Function.update l.recoveries run.request.stableKey
            (l.recoveries run.request.stableKey + 1)
        }.put id { run with phase := .ended outcome })

variable {config : RecoveryLadderConfig} {l : RecoveryLadder ε} {id : Nat} {run : Run ε}

theorem runRungs_idles (config : RecoveryLadderConfig) (l : RecoveryLadder ε) (id : Nat)
    (run : Run ε) (steps : List RecoveryStepReport) (rungs : List RecoveryRung) :
    ∃ phase steps', phase.Idle ∧
      l.runRungs config id run steps rungs = l.put id { run with phase, steps := steps' } := by
  unfold runRungs
  split
  · next rung rest skipped _ => exact ⟨.asking rung rest, steps ++ skipped, trivial, rfl⟩
  · next skipped _ =>
    refine ⟨.ended ⟨.exhausted, run.request.attribution, steps ++ skipped,
      (l.budgetStateFor run.request.stableKey).degraded, _⟩, steps ++ skipped, .inr rfl, rfl⟩

theorem turned_runRungs (live : run.phase.Live) (stepped : run.phase.Stepped l)
    (steps : List RecoveryStepReport) (rungs : List RecoveryRung) :
    Turned l id run (l.runRungs config id run steps rungs) := by
  obtain ⟨phase, steps', idle, same⟩ :=
    runRungs_idles config l id run steps rungs
  rw [same]
  exact .idles phase steps' live stepped idle

theorem turned_report (live : run.phase.Live) (stepped : run.phase.Stepped l) {rung : RecoveryRung}
    {rest : List RecoveryRung} {status : StepStatus} {reason : JsString} :
    Turned l id run (l.report config id run rung rest status reason) := by
  simp only [report]
  split
  · exact .idles (.probing rung rest) _ live stepped trivial
  · exact turned_runRungs live stepped _ rest

theorem turned_reject (live : run.phase.Live) (stepped : run.phase.Stepped l) (error : ε) :
    Turned l id run (l.reject id run error) :=
  .idles (.rejected error) run.steps live stepped trivial

theorem turned_decide : Turned l id run (l.decide id run) := by
  unfold decide
  split
  · next rung rest asks => exact .decided rung rest asks
  · exact .same

theorem turned_undecided (error : ε) : Turned l id run (l.undecided id run error) := by
  unfold undecided
  split
  · next asks => exact turned_reject (by simp [asks, Phase.Live]) (by simp [Phase.Stepped, asks]) error
  · exact .same

theorem turned_tell : Turned l id run (l.tell id run) := by
  unfold tell
  split
  · next rung rest reason told =>
    exact .idles _ _ (by simp [told, Phase.Live]) (by simp [Phase.Stepped, told]) (.inl rfl)
  · next rung rest told =>
    unfold runRung
    split
    · exact .powers rest told
    · exact .queues rung rest told
  · exact .same

theorem turned_stepped : Turned l id run (l.stepped config id run) := by
  unfold stepped
  split
  · next rung rest call inActor =>
    have live : run.phase.Live := by simp [inActor, Phase.Live]
    have hasStepped {result : Except ε (Option StepOutcome)}
        (settled : (l.actor.calls call).map ModemActor.Call.stage = some (.settled result)) :
        run.phase.Stepped l := by
      intro rung' rest' call' inActor'
      cases inActor.symm.trans inActor'
      obtain ⟨other, isCall, isStage⟩ := Option.map_eq_some_iff.mp settled
      exact ⟨other, result, isCall, isStage⟩
    split
    · next settled => exact turned_reject live (hasStepped settled) _
    · next settled => exact turned_report live (hasStepped settled)
    · exact .same
  · exact .same

theorem turned_cycled (answer : Except ε PowerCycleResult) :
    Turned l id run (l.cycled config id run answer) := by
  unfold cycled
  split
  · next powers =>
    exact turned_reject (by simp [powers, Phase.Live]) (by simp [Phase.Stepped, powers]) _
  · next powers => exact turned_report (by simp [powers, Phase.Live]) (by simp [Phase.Stepped, powers])
  · exact .same

theorem turned_probed (answer : Except ε Bool) :
    Turned l id run (l.probed config id run answer) := by
  unfold probed
  split
  · next probes =>
    exact turned_reject (by simp [probes, Phase.Live]) (by simp [Phase.Stepped, probes]) _
  · next probes =>
    exact turned_runRungs (by simp [probes, Phase.Live]) (by simp [Phase.Stepped, probes]) _ _
  · next rung rest probes => exact .recovers rung rest probes _ rfl
  · exact .same

theorem onRun_turned {P : RecoveryLadder ε → Prop} {go : Run ε → RecoveryLadder ε} (same : P l)
    (turn : ∀ run l', l.runs id = some run → Turned l id run l' → P l')
    (turned : ∀ run, Turned l id run (go run)) : P (l.onRun id go) := by
  unfold onRun
  split
  · next run isRun => exact turn run (go run) isRun (turned run)
  · exact same

/-- What an event can do: a request, a turn of a run, or a change of what is around the runs. -/
theorem step_cases {P : RecoveryLadder ε → Prop} (event : Event ε) (same : P l)
    (request : ∀ recovery request, event = .run recovery request →
      P (l.request config recovery request))
    (turn : ∀ id run l', l.runs id = some run → Turned l id run l' → P l')
    (actor : ∀ inner, event = .actor inner → P { l with actor := l.actor.step inner })
    (holds : ∀ stableKey hold, (∀ reason, hold = some reason → event = .beginHold stableKey reason) →
      P { l with holds := Function.update l.holds stableKey hold })
    (clear : ∀ stableKey, event = .clear stableKey → P (l.clear stableKey)) :
    P (l.step config event) := by
  cases event with
  | run recovery asked => exact request recovery asked rfl
  | decided id => exact onRun_turned same (turn id) fun _ => turned_decide
  | undecided id error => exact onRun_turned same (turn id) fun _ => turned_undecided error
  | told id => exact onRun_turned same (turn id) fun _ => turned_tell
  | stepped id => exact onRun_turned same (turn id) fun _ => turned_stepped
  | cycled id answer => exact onRun_turned same (turn id) fun _ => turned_cycled answer
  | probed id answer => exact onRun_turned same (turn id) fun _ => turned_probed answer
  | actor inner => exact actor inner rfl
  | beginHold stableKey reason => exact holds stableKey (some reason) fun _ same => by cases same; rfl
  | endHold stableKey => exact holds stableKey none nofun
  | clear stableKey => exact clear stableKey rfl

/-- The way a run ends agrees with the decision of the budget. -/
def Run.Fated (run : Run ε) : Prop :=
  match run.decision with
  | none => (∃ outcome, run.phase = .ended outcome ∧ outcome.kind ≠ .loopStop) ∧
      run.reached = none ∧ (run.recovery.enabled → run.request.attribution ≠ .modemFault)
  | some (.cooldown _ _) => (∃ outcome, run.phase = .ended outcome ∧ outcome.kind ≠ .loopStop) ∧
      run.reached = none
  | some (.loopStop _) => (∃ outcome, run.phase = .ended outcome ∧ outcome.kind = .loopStop) ∧
      run.reached = none
  | some (.proceed _) => ∀ outcome, run.phase = .ended outcome → outcome.kind ≠ .loopStop

/-- What a request does. -/
structure Requested (config : RecoveryLadderConfig) (l : RecoveryLadder ε)
    (recovery : DesiredRecovery) (request : RecoveryRequest) (run : Run ε) (l' : RecoveryLadder ε) :
    Prop where
  runs : l'.runs = Function.update l.runs l.requested (some run)
  requested : l'.requested = l.requested + 1
  recoveries : l'.recoveries = l.recoveries
  actor : l'.actor = l.actor
  holds : l'.holds = l.holds
  asked : run.request = request ∧ run.round = l.recoveries request.stableKey ∧ run.calls = []
  idle : run.phase.Idle ∨ ∃ outcome, run.phase = .ended outcome
  fated : run.Fated
  decision : run.decision = none ∧ l'.states = l.states ∨
    ∃ decision, decision = beginAttempt (l.budgetStateFor request.stableKey) config.budget
        request.now ∧ run.decision = some decision ∧
      ∀ stableKey, l'.budgetStateFor stableKey =
        if stableKey = request.stableKey then decision.state else l.budgetStateFor stableKey

theorem budgetStateFor_setState {stableKey key : JsString} {state : RecoveryBudgetState} :
    (l.setState stableKey state).budgetStateFor key =
      if key = stableKey then state else l.budgetStateFor key := by
  simp only [setState, budgetStateFor, Function.update_apply]
  split <;> rfl

theorem lt_requested (fresh : ∀ id, l.requested ≤ id → l.runs id = none)
    (isRun : l.runs id = some run) : id < l.requested := by
  by_contra ge
  simp [fresh id (Nat.le_of_not_lt ge)] at isRun

theorem requested_request (recovery : DesiredRecovery) (request : RecoveryRequest) :
    ∃ run, Requested config l recovery request run (l.request config recovery request) := by
  simp only [RecoveryLadder.request]
  split
  · next disabled =>
    refine ⟨_, rfl, rfl, rfl, rfl, rfl, ⟨rfl, rfl, rfl⟩, .inr ⟨_, rfl⟩, ?_, .inl ⟨rfl, rfl⟩⟩
    simp [Run.Fated, disabled]
  · split
    · next unattributed =>
      refine ⟨_, rfl, rfl, rfl, rfl, rfl, ⟨rfl, rfl, rfl⟩, .inr ⟨_, rfl⟩, ?_, .inl ⟨rfl, rfl⟩⟩
      simp [Run.Fated, unattributed]
    · split
      · next state decides =>
        have decides' : beginAttempt (l.budgetStateFor request.stableKey) config.budget
          request.now = .loopStop state := decides
        refine ⟨_, rfl, rfl, rfl, rfl, rfl, ⟨rfl, rfl, rfl⟩, .inr ⟨_, rfl⟩, ?_,
          .inr ⟨_, rfl, rfl, ?_⟩⟩
        · simp [Run.Fated, decides]
        · intro stableKey
          rw [decides']
          exact budgetStateFor_setState
      · next state retryAfter decides =>
        have decides' : beginAttempt (l.budgetStateFor request.stableKey) config.budget
          request.now = .cooldown state retryAfter := decides
        refine ⟨_, rfl, rfl, rfl, rfl, rfl, ⟨rfl, rfl, rfl⟩, .inr ⟨_, rfl⟩, ?_,
          .inr ⟨_, rfl, rfl, ?_⟩⟩
        · simp [Run.Fated, decides]
        · intro stableKey
          rw [decides']
          split
          · next same => rw [same, BudgetDecision.state, (RecoveryBudgetState.cools decides').2]; rfl
          · rfl
      · next state decides =>
        obtain ⟨phase, steps', idle, same⟩ := runRungs_idles config
          ({ l with requested := l.requested + 1 }.setState request.stableKey state) l.requested
          ⟨recovery, request, .asking .nmCycle [], [], l.recoveries request.stableKey,
            some (.proceed state), [], none⟩ [] LADDER_ORDER
        rw [decides, same]
        refine ⟨_, rfl, rfl, rfl, rfl, rfl, ⟨rfl, rfl, rfl⟩, .inl idle, ?_,
          .inr ⟨_, decides.symm, rfl, fun _ => budgetStateFor_setState⟩⟩
        simp only [Run.Fated]
        rintro outcome rfl
        rcases idle with kind | kind <;> simp [kind]

end RecoveryLadder

end ModemStack.Backend
