import ModemStack.Backend.RecoveryLadder

/-!
The recovery budget over whole runs of the ladder.

A recovered outcome gives the budget back, the cooldown included, so what the budget bounds is
a round: the runs requested between two recovered outcomes of a modem. A run that is disabled
or not attributed ends before it comes to the budget, also when the modem is degraded.
-/

namespace ModemStack.Backend

open ModemStack.Async ModemStack.Text RecoveryLadder

namespace RecoveryLadder

variable {ε : Type} {config : RecoveryLadderConfig} {l : RecoveryLadder ε} {id : Nat} {run : Run ε}

def Run.admitted (run : Run ε) : Bool := run.decision matches some (.proceed _)

/-- The run has passed the budget, in this round of this modem. -/
def Run.admittedIn (stableKey : JsString) (round : Nat) (run : Run ε) : Bool :=
  run.admitted && run.request.stableKey = stableKey && run.round = round

/-- How many runs of a round have passed the budget. -/
def admissions (l : RecoveryLadder ε) (stableKey : JsString) (round : Nat) : Nat :=
  (List.range l.requested).countP fun id => (l.runs id).any (Run.admittedIn stableKey round)

def Run.loopStopped (run : Run ε) : Prop :=
  ∃ outcome, run.phase = .ended outcome ∧ outcome.kind = .loopStop

/-! ### The invariant -/

structure Budgeted (config : RecoveryLadderConfig) (l : RecoveryLadder ε) : Prop where
  fresh : ∀ id, l.requested ≤ id → l.runs id = none
  rounds : ∀ id run, l.runs id = some run → run.round ≤ l.recoveries run.request.stableKey
  fated : ∀ id run, l.runs id = some run → run.Fated
  attempts : ∀ stableKey, (l.budgetStateFor stableKey).attempts =
    l.admissions stableKey (l.recoveries stableKey)
  limit : ∀ stableKey round, l.admissions stableKey round ≤ config.budget.maxAttempts
  last : ∀ id run, l.runs id = some run → run.admitted →
    run.round = l.recoveries run.request.stableKey →
    ∃ last, (l.budgetStateFor run.request.stableKey).lastAttemptAt = some last ∧
      run.request.now ≤ last
  apart : ∀ i j run run', i < j → l.runs i = some run → l.runs j = some run' → run.admitted →
    run'.admitted → run.request.stableKey = run'.request.stableKey → run.round = run'.round →
    run.request.now + config.budget.cooldownMs ≤ run'.request.now
  latched : ∀ id run state, l.runs id = some run → run.decision = some (.loopStop state) →
    run.round = l.recoveries run.request.stableKey →
    (l.budgetStateFor run.request.stableKey).degraded
  stays : ∀ i j run run' state decision, i < j → l.runs i = some run → l.runs j = some run' →
    run.request.stableKey = run'.request.stableKey → run.round = run'.round →
    run.decision = some (.loopStop state) → run'.decision = some decision →
    ∃ state', decision = .loopStop state'

/-- Runs that go on without a change of what the budget depends on. -/
theorem admissions_put {run' : Run ε} (isRun : l.runs id = some run)
    (same : run'.decision = run.decision ∧ run'.request = run.request ∧ run'.round = run.round)
    {stableKey : JsString} {round : Nat} :
    (l.put id run').admissions stableKey round = l.admissions stableKey round := by
  refine List.countP_congr fun other _ => ?_
  simp only [put, Function.update_apply]
  split
  · next eq =>
    rw [eq, isRun]
    simp [Run.admittedIn, Run.admitted, same]
  · rfl

theorem admissions_requested {recovery : DesiredRecovery} {request : RecoveryRequest}
    {l' : RecoveryLadder ε} (asked : Requested config l recovery request run l')
    {stableKey : JsString} {round : Nat} : l'.admissions stableKey round =
      l.admissions stableKey round + if run.admittedIn stableKey round then 1 else 0 := by
  simp only [admissions, asked.requested, asked.runs, List.range_succ, List.countP_append]
  congr 1
  · refine List.countP_congr fun other mem => ?_
    rw [Function.update_of_ne (List.mem_range.mp mem).ne]
  · simp

namespace Budgeted

theorem new : Budgeted config (.new : RecoveryLadder ε) := by
  constructor <;> simp [RecoveryLadder.new, admissions, budgetStateFor, INITIAL_BUDGET_STATE]

theorem around (budgeted : Budgeted config l) (actor : ModemActor ε (Option StepOutcome))
    (holds : JsString → Option JsString) : Budgeted config { l with actor, holds } :=
  ⟨budgeted.fresh, budgeted.rounds, budgeted.fated, budgeted.attempts, budgeted.limit,
    budgeted.last, budgeted.apart, budgeted.latched, budgeted.stays⟩

theorem put (budgeted : Budgeted config l) {run' : Run ε} (isRun : l.runs id = some run)
    (same : run'.decision = run.decision ∧ run'.request = run.request ∧ run'.round = run.round)
    (fated : run'.Fated) : Budgeted config (l.put id run') := by
  have before {j : Nat} {after : Run ε} (isAfter : (l.put id run').runs j = some after) :
      ∃ old, l.runs j = some old ∧ after.decision = old.decision ∧ after.request = old.request ∧
        after.round = old.round ∧ after.admitted = old.admitted ∧ (after.Fated ∨ after = old) := by
    simp only [RecoveryLadder.put, Function.update_apply] at isAfter
    split at isAfter
    · next eq =>
      cases isAfter
      exact ⟨run, eq ▸ isRun, same.1, same.2.1, same.2.2, by simp [Run.admitted, same.1], .inl fated⟩
    · exact ⟨after, isAfter, rfl, rfl, rfl, rfl, .inr rfl⟩
  constructor
  · intro j le
    have differs : j ≠ id := (Nat.lt_of_lt_of_le (lt_requested budgeted.fresh isRun) le).ne'
    simpa only [RecoveryLadder.put, Function.update_of_ne differs] using budgeted.fresh j le
  · intro j after isAfter
    obtain ⟨old, isOld, -, request, round, -⟩ := before isAfter
    rw [request, round]
    exact budgeted.rounds j old isOld
  · intro j after isAfter
    obtain ⟨old, isOld, -, -, -, -, fated | rfl⟩ := before isAfter
    · exact fated
    · exact budgeted.fated j after isOld
  · intro stableKey
    rw [admissions_put isRun same]
    exact budgeted.attempts stableKey
  · intro stableKey round
    rw [admissions_put isRun same]
    exact budgeted.limit stableKey round
  · intro j after isAfter
    obtain ⟨old, isOld, -, request, round, admitted, -⟩ := before isAfter
    rw [request, round, admitted]
    exact budgeted.last j old isOld
  · intro i j first second lt isFirst isSecond
    obtain ⟨old, isOld, -, request, round, admitted, -⟩ := before isFirst
    obtain ⟨old', isOld', -, request', round', admitted', -⟩ := before isSecond
    rw [request, round, admitted, request', round', admitted']
    exact budgeted.apart i j old old' lt isOld isOld'
  · intro j after state isAfter
    obtain ⟨old, isOld, decision, request, round, -⟩ := before isAfter
    rw [decision, request, round]
    exact budgeted.latched j old state isOld
  · intro i j first second state decision lt isFirst isSecond
    obtain ⟨old, isOld, decided, request, round, -⟩ := before isFirst
    obtain ⟨old', isOld', decided', request', round', -⟩ := before isSecond
    rw [request, round, request', round', decided, decided']
    exact budgeted.stays i j old old' state decision lt isOld isOld'

/-- A recovered outcome opens a new round, with the whole budget. -/
theorem recover (budgeted : Budgeted config l) (stableKey : JsString) :
    Budgeted config { l.setState stableKey markRecovered with
      recoveries := Function.update l.recoveries stableKey (l.recoveries stableKey + 1) } := by
  have none_admitted {key : JsString} : l.admissions key (l.recoveries key + 1) = 0 := by
    refine List.countP_eq_zero.mpr fun id _ => ?_
    cases isRun : l.runs id with
    | none => simp
    | some run =>
      have le := budgeted.rounds id run isRun
      simp only [Option.any_some, Run.admittedIn, Bool.and_eq_true, decide_eq_true_eq]
      rintro ⟨⟨-, rfl⟩, round⟩
      omega
  have older {id : Nat} {run : Run ε} (isRun : l.runs id = some run)
      (round : run.round = Function.update l.recoveries stableKey (l.recoveries stableKey + 1)
        run.request.stableKey) :
      run.request.stableKey ≠ stableKey ∧ run.round = l.recoveries run.request.stableKey := by
    have le := budgeted.rounds id run isRun
    rw [Function.update_apply] at round
    split at round
    · next same => rw [same] at le; omega
    · next differs => exact ⟨differs, round⟩
  constructor
  · exact budgeted.fresh
  · intro id run isRun
    have le := budgeted.rounds id run isRun
    simp only [Function.update_apply]
    split
    · next same => rw [same] at le; omega
    · exact le
  · exact budgeted.fated
  · intro key
    change ((l.setState stableKey markRecovered).budgetStateFor key).attempts =
      l.admissions key (Function.update l.recoveries stableKey (l.recoveries stableKey + 1) key)
    rw [budgetStateFor_setState, Function.update_apply]
    split
    · next same => rw [← same, none_admitted]; rfl
    · exact budgeted.attempts key
  · exact budgeted.limit
  · intro id run isRun admitted round
    obtain ⟨differs, round⟩ := older isRun round
    change ∃ last, ((l.setState stableKey markRecovered).budgetStateFor _).lastAttemptAt = _ ∧ _
    rw [budgetStateFor_setState, if_neg differs]
    exact budgeted.last id run isRun admitted round
  · exact budgeted.apart
  · intro id run state isRun decision round
    obtain ⟨differs, round⟩ := older isRun round
    change ((l.setState stableKey markRecovered).budgetStateFor _).degraded
    rw [budgetStateFor_setState, if_neg differs]
    exact budgeted.latched id run state isRun decision round
  · exact budgeted.stays

theorem turn (budgeted : Budgeted config l) (isRun : l.runs id = some run) {l' : RecoveryLadder ε}
    (turned : Turned l id run l') : Budgeted config l' := by
  have fated := budgeted.fated id run isRun
  -- A run that has not ended was let through by the budget.
  have goesOn (live : run.phase.Live) {run' : Run ε} (decision : run'.decision = run.decision)
      (kind : ∀ outcome, run'.phase = .ended outcome → outcome.kind ≠ .loopStop) : run'.Fated := by
    unfold Run.Fated at fated ⊢
    rw [decision]
    split at fated <;> grind [Phase.Live]
  cases turned with
  | same => exact budgeted
  | decided rung rest asks =>
    exact budgeted.put isRun ⟨rfl, rfl, rfl⟩ (goesOn (by simp [asks, Phase.Live]) rfl (by simp))
  | powers rest allowed =>
    exact budgeted.put isRun ⟨rfl, rfl, rfl⟩ (goesOn (by simp [allowed, Phase.Live]) rfl (by simp))
  | queues rung rest allowed =>
    have put : Budgeted config (l.put id { run with
        phase := .inActor rung rest l.actor.submitted
        calls := l.actor.submitted :: run.calls
        reached := some (l.recoveries run.request.stableKey) }) :=
      budgeted.put isRun ⟨rfl, rfl, rfl⟩ (goesOn (by simp [allowed, Phase.Live]) rfl (by simp))
    exact put.around _ l.holds
  | idles phase steps live stepped idle =>
    refine budgeted.put isRun ⟨rfl, rfl, rfl⟩ (goesOn live rfl fun outcome ended => ?_)
    rw [show phase = .ended outcome from ended] at idle
    rcases idle with kind | kind <;> simp [kind]
  | recovers rung rest probes outcome kind =>
    refine (budgeted.recover run.request.stableKey).put isRun ⟨rfl, rfl, rfl⟩
      (goesOn (by simp [probes, Phase.Live]) rfl fun outcome' ended => ?_)
    cases ended
    simp [kind]

end Budgeted

/-- What a request does to the budget of its modem. -/
structure Charged (config : RecoveryLadderConfig) (l l' : RecoveryLadder ε) (run : Run ε) : Prop where
  attempts : (l'.budgetStateFor run.request.stableKey).attempts =
    (l.budgetStateFor run.request.stableKey).attempts + if run.admitted then 1 else 0
  last : ∀ last, (l.budgetStateFor run.request.stableKey).lastAttemptAt = some last →
    ∃ last', (l'.budgetStateFor run.request.stableKey).lastAttemptAt = some last' ∧ last ≤ last'
  admitted : run.admitted →
    (l'.budgetStateFor run.request.stableKey).lastAttemptAt = some run.request.now ∧
    (l.budgetStateFor run.request.stableKey).attempts < config.budget.maxAttempts ∧
    ∀ last, (l.budgetStateFor run.request.stableKey).lastAttemptAt = some last →
      last + config.budget.cooldownMs ≤ run.request.now
  stopped : ∀ state, run.decision = some (.loopStop state) →
    (l'.budgetStateFor run.request.stableKey).degraded
  latched : (l.budgetStateFor run.request.stableKey).degraded →
    (l'.budgetStateFor run.request.stableKey).degraded ∧
    ∀ decision, run.decision = some decision → ∃ state, decision = .loopStop state
  others : ∀ stableKey, stableKey ≠ run.request.stableKey →
    l'.budgetStateFor stableKey = l.budgetStateFor stableKey

theorem Requested.charged {recovery : DesiredRecovery} {request : RecoveryRequest}
    {l' : RecoveryLadder ε} (asked : Requested config l recovery request run l') :
    Charged config l l' run := by
  obtain ⟨rfl, -, -⟩ := asked.asked
  obtain ⟨undecided, same⟩ | ⟨decision, begins, isDecision, states⟩ := asked.decision
  · have same (key : JsString) : l'.budgetStateFor key = l.budgetStateFor key := by
      simp only [budgetStateFor, same]
    constructor <;> simp [same, undecided, Run.admitted]
    exact fun last isLast => ⟨last, isLast, Int.le_refl last⟩
  · have decides := decides_beginAttempt (l.budgetStateFor run.request.stableKey) config.budget
      run.request.now
    rw [← begins] at decides
    have state : l'.budgetStateFor run.request.stableKey = decision.state := by
      rw [states, if_pos rfl]
    constructor
    · rw [state, decides.attempts]
      cases decision <;> simp [Run.admitted, isDecision]
    · rw [state]
      exact decides.last
    · intro admitted
      rw [state]
      cases decision with
      | proceed next => exact decides.proceeds next rfl
      | cooldown | loopStop => simp [Run.admitted, isDecision] at admitted
    · intro next stops
      cases isDecision.symm.trans stops
      rw [state]
      exact decides.stopped next rfl
    · intro degraded
      obtain ⟨next, rfl⟩ := decides.latched degraded
      rw [state]
      refine ⟨decides.stopped next rfl, fun other isOther => ?_⟩
      cases isDecision.symm.trans isOther
      exact ⟨next, rfl⟩
    · intro key differs
      rw [states, if_neg differs]

namespace Budgeted

/-- A new run is admitted below the limit, stopped when the modem is degraded, or turned away
before it comes to the budget. -/
theorem request (budgeted : Budgeted config l) {recovery : DesiredRecovery}
    {request : RecoveryRequest} {l' : RecoveryLadder ε}
    (asked : Requested config l recovery request run l') : Budgeted config l' := by
  have charged := asked.charged
  obtain ⟨rfl, isRound, -⟩ := asked.asked
  have cases {j : Nat} {after : Run ε} (isAfter : l'.runs j = some after) :
      (j = l.requested ∧ after = run) ∨ (j < l.requested ∧ l.runs j = some after) := by
    rw [asked.runs, Function.update_apply] at isAfter
    split at isAfter
    · next eq => exact .inl ⟨eq, (Option.some.inj isAfter).symm⟩
    · exact .inr ⟨lt_requested budgeted.fresh isAfter, isAfter⟩
  constructor
  · intro j le
    rw [asked.requested] at le
    rw [asked.runs, Function.update_of_ne (by omega)]
    exact budgeted.fresh j (by omega)
  · intro j after isAfter
    rw [asked.recoveries]
    obtain ⟨-, rfl⟩ | ⟨-, isOld⟩ := cases isAfter
    · exact Nat.le_of_eq isRound
    · exact budgeted.rounds j after isOld
  · intro j after isAfter
    obtain ⟨-, rfl⟩ | ⟨-, isOld⟩ := cases isAfter
    · exact asked.fated
    · exact budgeted.fated j after isOld
  · intro key
    rw [asked.recoveries, admissions_requested asked]
    by_cases same : key = run.request.stableKey
    · subst same
      rw [charged.attempts, budgeted.attempts]
      simp [Run.admittedIn, isRound]
    · rw [charged.others key same, budgeted.attempts]
      simp [Run.admittedIn, Ne.symm same]
  · intro key round
    rw [admissions_requested asked]
    split
    · next admitted =>
      simp only [Run.admittedIn, Bool.and_eq_true, decide_eq_true_eq] at admitted
      obtain ⟨⟨admitted, rfl⟩, rfl⟩ := admitted
      have left := (charged.admitted admitted).2.1
      rw [budgeted.attempts] at left
      rw [isRound]
      omega
    · exact budgeted.limit key round
  · intro j after isAfter admitted round
    rw [asked.recoveries] at round
    obtain ⟨-, rfl⟩ | ⟨-, isOld⟩ := cases isAfter
    · exact ⟨_, (charged.admitted admitted).1, Int.le_refl _⟩
    · obtain ⟨last, isLast, le⟩ := budgeted.last j after isOld admitted round
      by_cases same : after.request.stableKey = run.request.stableKey
      · rw [same] at isLast ⊢
        obtain ⟨last', isLast', le'⟩ := charged.last last isLast
        exact ⟨last', isLast', Int.le_trans le le'⟩
      · rw [charged.others _ same]
        exact ⟨last, isLast, le⟩
  · intro i j first second lt isFirst isSecond admitted admitted' same round
    obtain ⟨rfl, rfl⟩ | ⟨below, isOld⟩ := cases isSecond
    · obtain ⟨rfl, -⟩ | ⟨-, isOld⟩ := cases isFirst
      · exact absurd lt (Nat.lt_irrefl _)
      · obtain ⟨last, isLast, le⟩ := budgeted.last i first isOld admitted
          (by rw [round, isRound, same])
        rw [same] at isLast
        have cool := (charged.admitted admitted').2.2 last isLast
        omega
    · obtain ⟨rfl, -⟩ | ⟨-, isOld'⟩ := cases isFirst
      · exact absurd lt (Nat.lt_asymm below)
      · exact budgeted.apart i j first second lt isOld' isOld admitted admitted' same round
  · intro j after state isAfter decision round
    rw [asked.recoveries] at round
    obtain ⟨-, rfl⟩ | ⟨-, isOld⟩ := cases isAfter
    · exact charged.stopped state decision
    · have degraded := budgeted.latched j after state isOld decision round
      by_cases same : after.request.stableKey = run.request.stableKey
      · rw [same] at degraded ⊢
        exact (charged.latched degraded).1
      · rw [charged.others _ same]
        exact degraded
  · intro i j first second state decision lt isFirst isSecond same round stopped decided
    obtain ⟨rfl, rfl⟩ | ⟨below, isOld⟩ := cases isSecond
    · obtain ⟨rfl, -⟩ | ⟨-, isOld⟩ := cases isFirst
      · exact absurd lt (Nat.lt_irrefl _)
      · have degraded := budgeted.latched i first state isOld stopped
          (by rw [round, isRound, same])
        rw [same] at degraded
        exact (charged.latched degraded).2 decision decided
    · obtain ⟨rfl, -⟩ | ⟨-, isOld'⟩ := cases isFirst
      · exact absurd lt (Nat.lt_asymm below)
      · exact budgeted.stays i j first second state decision lt isOld' isOld same round stopped
          decided

theorem step (budgeted : Budgeted config l) (event : Event ε)
    (noClear : ∀ stableKey, event ≠ .clear stableKey) : Budgeted config (l.step config event) := by
  refine step_cases event budgeted ?_ ?_ ?_ ?_ ?_
  · intro recovery request _
    obtain ⟨run, asked⟩ := requested_request recovery request
    exact budgeted.request asked
  · exact fun id run l' isRun turned => budgeted.turn isRun turned
  · exact fun inner _ => budgeted.around _ l.holds
  · exact fun stableKey hold _ => budgeted.around l.actor _
  · exact fun stableKey isClear => absurd isClear (noClear stableKey)

end Budgeted

theorem budgeted_run {events : List (Event ε)} (noClear : ∀ stableKey, .clear stableKey ∉ events) :
    Budgeted config (RecoveryLadder.run config events) := by
  have allowed : AllowsEvents (RecoveryLadder.step config)
      (fun _ event => ∀ stableKey, event ≠ .clear stableKey) .new events :=
    allowsEvents_of_forall fun event mem _ stableKey isClear => noClear stableKey (isClear ▸ mem)
  exact foldl_invariant (fun _ event budgeted noClear => budgeted.step event noClear) .new allowed

/-! ### What the budget bounds -/

/-- How many runs that were requested in a round have come to execute a rung. -/
def attempted (l : RecoveryLadder ε) (stableKey : JsString) (round : Nat) : Nat :=
  (List.range l.requested).countP fun id => (l.runs id).any fun run =>
    run.reached.isSome && run.request.stableKey = stableKey && run.round = round

structure BudgetKept (config : RecoveryLadderConfig) (l : RecoveryLadder ε) : Prop where
  apart : ∀ i j run run', i < j → l.runs i = some run → l.runs j = some run' →
    run.reached.isSome → run'.reached.isSome → run.request.stableKey = run'.request.stableKey →
    run.round = run'.round → run.request.now + config.budget.cooldownMs ≤ run'.request.now
  bounded : ∀ stableKey round, l.attempted stableKey round ≤ config.budget.maxAttempts
  stopped : ∀ i j run run', i < j → l.runs i = some run → l.runs j = some run' →
    run.request.stableKey = run'.request.stableKey → run.round = run'.round → run.loopStopped →
    run'.recovery.enabled → run'.request.attribution = .modemFault → run'.loopStopped

namespace Run.Fated

theorem admitted (fated : run.Fated) (reached : run.reached.isSome) : run.admitted := by
  unfold Run.Fated at fated
  unfold Run.admitted
  split at fated
  · simp [fated.2.1] at reached
  · simp [fated.2] at reached
  · simp [fated.2] at reached
  · next decision => simp [decision]

theorem loopStopped_iff (fated : run.Fated) :
    run.loopStopped ↔ ∃ state, run.decision = some (.loopStop state) := by
  unfold Run.Fated at fated
  constructor
  · rintro ⟨outcome, ended, kind⟩
    split at fated
    · obtain ⟨⟨outcome', ended', other⟩, -⟩ := fated
      cases ended.symm.trans ended'
      exact absurd kind other
    · obtain ⟨⟨outcome', ended', other⟩, -⟩ := fated
      cases ended.symm.trans ended'
      exact absurd kind other
    · next state decision => exact ⟨state, decision⟩
    · exact absurd kind (fated outcome ended)
  · rintro ⟨state, decision⟩
    simp only [decision] at fated
    exact fated.1

theorem decides (fated : run.Fated) (enabled : run.recovery.enabled)
    (modemFault : run.request.attribution = .modemFault) :
    ∃ decision, run.decision = some decision := by
  cases isDecision : run.decision with
  | some decision => exact ⟨decision, rfl⟩
  | none =>
    simp only [Run.Fated, isDecision] at fated
    exact absurd modemFault (fated.2.2 enabled)

end Run.Fated

theorem Budgeted.kept (budgeted : Budgeted config l) : BudgetKept config l := by
  constructor
  · intro i j run run' lt isRun isRun' reached reached' same round
    exact budgeted.apart i j run run' lt isRun isRun' ((budgeted.fated i run isRun).admitted reached)
      ((budgeted.fated j run' isRun').admitted reached') same round
  · intro stableKey round
    refine Nat.le_trans (List.countP_mono_left fun id _ reached => ?_)
      (budgeted.limit stableKey round)
    cases isRun : l.runs id with
    | none => simp [isRun] at reached
    | some run =>
      simp only [isRun, Option.any_some, Bool.and_eq_true, decide_eq_true_eq] at reached
      simp only [Option.any_some, Run.admittedIn, Bool.and_eq_true, decide_eq_true_eq]
      exact ⟨⟨(budgeted.fated id run isRun).admitted reached.1.1, reached.1.2⟩, reached.2⟩
  · intro i j run run' lt isRun isRun' same round stopped enabled modemFault
    have fated := budgeted.fated j run' isRun'
    obtain ⟨state, decision⟩ := (budgeted.fated i run isRun).loopStopped_iff.mp stopped
    obtain ⟨decision', isDecision⟩ := fated.decides enabled modemFault
    obtain ⟨state', rfl⟩ :=
      budgeted.stays i j run run' state decision' lt isRun isRun' same round decision isDecision
    exact fated.loopStopped_iff.mpr ⟨state', isDecision⟩

/-- Without an operator's clear, whatever is requested and however rungs and probes end: within
a round attempts are apart, bounded, and over once the loop-stop has latched. -/
theorem budgetKept_run (config : RecoveryLadderConfig) (events : List (Event ε))
    (noClear : ∀ stableKey, .clear stableKey ∉ events) :
    BudgetKept config (RecoveryLadder.run config events) :=
  (budgeted_run noClear).kept

/-- A modem that recovers at once and fails again is attempted again at once. -/
def runFlapping : List (Event JsString) :=
  let request (now : Int) : Event JsString := .run ⟨true⟩ ⟨js "slot:a", .modemFault, now⟩
  let applied (call : Nat) : List (Event JsString) :=
    [.actor (.resume call .priorSettled), .actor (.resume call (.task (.ok (some ⟨true, js ""⟩))))]
  [request 0, .decided 0, .told 0] ++ applied 0 ++ [.stepped 0, .probed 0 (.ok true), request 1,
    .decided 1, .told 1] ++ applied 1 ++ [.stepped 1, .probed 1 (.ok true)]

theorem budgetKept_flapping :
    BudgetKept DEFAULT_LADDER_CONFIG (RecoveryLadder.run DEFAULT_LADDER_CONFIG runFlapping) := by
  refine budgetKept_run DEFAULT_LADDER_CONFIG runFlapping fun stableKey mem => ?_
  simp [runFlapping] at mem

/-- The budget without regard to rounds: attempts are always apart, those made between two
recovered outcomes bounded, and every run after a loop-stop is stopped. -/
structure BudgetAlways (config : RecoveryLadderConfig) (l : RecoveryLadder ε) : Prop where
  apart : ∀ i j run run', i < j → l.runs i = some run → l.runs j = some run' →
    run.reached.isSome → run'.reached.isSome → run.request.stableKey = run'.request.stableKey →
    run.request.now + config.budget.cooldownMs ≤ run'.request.now
  bounded : ∀ stableKey round, ((List.range l.requested).countP fun id => (l.runs id).any fun run =>
    run.reached = some round && run.request.stableKey = stableKey) ≤ config.budget.maxAttempts
  stopped : ∀ i j run run', i < j → l.runs i = some run → l.runs j = some run' →
    run.request.stableKey = run'.request.stableKey → run.round = run'.round → run.loopStopped →
    run'.loopStopped

/-- Two runs in flight when the first of them recovers; two more follow. -/
def runOverlapping : List (Event JsString) :=
  let request (now : Int) : Event JsString := .run ⟨true⟩ ⟨js "slot:a", .modemFault, now⟩
  [request 0, .decided 0, .told 0, request 30000, .decided 1, .actor (.resume 0 .priorSettled),
    .actor (.resume 0 (.task (.ok (some ⟨true, js ""⟩)))), .stepped 0, .probed 0 (.ok true),
    .told 1, request 60000, .decided 2, .told 2, request 90000, .decided 3, .told 3]

/-- After the loop-stop comes a fault of the network. -/
def runUnattributed : List (Event JsString) :=
  let request (attribution : FaultAttribution) (now : Int) : Event JsString :=
    .run ⟨true⟩ ⟨js "slot:a", attribution, now⟩
  [request .modemFault 0, request .modemFault 30000, request .modemFault 60000,
    request .networkFault 90000]

theorem budgetAlways_fails :
    ¬ BudgetAlways DEFAULT_LADDER_CONFIG (RecoveryLadder.run DEFAULT_LADDER_CONFIG runFlapping) ∧
    ¬ BudgetAlways DEFAULT_LADDER_CONFIG
      (RecoveryLadder.run DEFAULT_LADDER_CONFIG runOverlapping) ∧
    ¬ BudgetAlways DEFAULT_LADDER_CONFIG
      (RecoveryLadder.run DEFAULT_LADDER_CONFIG runUnattributed) := by
  refine ⟨fun always => ?_, fun always => ?_, fun always => ?_⟩
  · exact absurd (always.apart 0 1 _ _ Nat.zero_lt_one rfl rfl rfl rfl rfl) (by decide)
  · exact absurd (always.bounded (js "slot:a") 1) (by decide)
  · obtain ⟨outcome, ended, kind⟩ := always.stopped 2 3 _ _ (by decide) rfl rfl rfl rfl ⟨_, rfl, rfl⟩
    cases ended
    cases kind

end RecoveryLadder

end ModemStack.Backend
