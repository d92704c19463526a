import ModemStack.Backend.RecoveryLadder

/-!
Recovery and other work on the same modem.

The actor keeps the rungs it runs apart from every other task of the modem. The interlock is
asked before a rung is queued, not when its turn comes, so a hold that begins in between is not
seen: `unhindered_run` holds of the runs in which no hold begins on a modem while a run of it
has leave for a rung that has not started.
-/

namespace ModemStack.Backend

open ModemStack.Async ModemStack.Text

namespace RecoveryLadder

variable {ε : Type} {config : RecoveryLadderConfig} {l : RecoveryLadder ε} {id : Nat} {run : Run ε}

/-! ### The property -/

/-- Call `call` of the actor is running. -/
def Underway (l : RecoveryLadder ε) (call : Nat) (stableKey : JsString) : Prop :=
  ∃ c, l.actor.calls call = some c ∧ c.stableKey = stableKey ∧ c.stage.phase = .running

/-- A rung in the actor runs alone among the tasks of its modem, and a run has one rung under way
at most. -/
structure CollisionFree (l : RecoveryLadder ε) : Prop where
  modem : ∀ id run, l.runs id = some run → ∀ call ∈ run.calls, ∃ c, l.actor.calls call = some c ∧
    c.stableKey = run.request.stableKey
  alone : ∀ stableKey call other, l.Underway call stableKey → l.Underway other stableKey →
    call = other
  oneRung : ∀ id run, l.runs id = some run → ∀ call ∈ run.calls,
    l.Underway call run.request.stableKey → ∃ rung rest, run.phase = .inActor rung rest call
  ownCalls : ∀ id id' run run' call, l.runs id = some run → l.runs id' = some run' →
    call ∈ run.calls → call ∈ run'.calls → id = id'

/-- In the step from `l` to `l'` run `id` starts a rung: the actor calls the step, or the power
hook is called. -/
def StartsRung (l l' : RecoveryLadder ε) (id : Nat) : Prop :=
  ∃ run, l.runs id = some run ∧
    ((∃ call ∈ run.calls, (l.actor.calls call).map ModemActor.Call.stage = some .queued ∧
      (l'.actor.calls call).map ModemActor.Call.stage = some .running) ∨
    (∀ rest, run.phase ≠ .powering rest) ∧
      ∃ run' rest, l'.runs id = some run' ∧ run'.phase = .powering rest)

/-- A rung starts only while the interlock would allow it. -/
def Unhindered (l l' : RecoveryLadder ε) : Prop :=
  ∀ id run, l.runs id = some run → StartsRung l l' id → l.holds run.request.stableKey = none

/-- The run has leave for a rung that has not started. -/
def Run.Cleared (l : RecoveryLadder ε) (run : Run ε) : Prop :=
  match run.phase with
  | .told _ _ none => True
  | .inActor _ _ call => (l.actor.calls call).map ModemActor.Call.stage = some .queued
  | _ => False

/-- A hold begins on a modem while no run of it is cleared. -/
def HoldsApart (l : RecoveryLadder ε) : Event ε → Prop
  | .beginHold stableKey _ => ∀ id run, l.runs id = some run → run.request.stableKey = stableKey →
      ¬ run.Cleared l
  | _ => True

/-! ### The invariant -/

structure Guarded (l : RecoveryLadder ε) : Prop where
  linked : ModemActor.Linked l.actor
  fresh : ∀ id, l.requested ≤ id → l.runs id = none
  modem : ∀ id run, l.runs id = some run → ∀ call ∈ run.calls, ∃ c, l.actor.calls call = some c ∧
    c.stableKey = run.request.stableKey
  settled : ∀ id run, l.runs id = some run → ∀ call ∈ run.calls,
    (∀ rung rest, run.phase ≠ .inActor rung rest call) →
    ∃ c result, l.actor.calls call = some c ∧ c.stage = .settled result
  current : ∀ id run, l.runs id = some run → ∀ rung rest call, run.phase = .inActor rung rest call →
    call ∈ run.calls
  ownCalls : ∀ id id' run run' call, l.runs id = some run → l.runs id' = some run' →
    call ∈ run.calls → call ∈ run'.calls → id = id'
  cleared : ∀ id run, l.runs id = some run → run.Cleared l → l.holds run.request.stableKey = none

namespace Guarded

theorem new : Guarded (.new : RecoveryLadder ε) := by
  have noRun {id : Nat} {run : Run ε} (isRun : (.new : RecoveryLadder ε).runs id = some run) :
      False := by
    simp [RecoveryLadder.new] at isRun
  constructor
  · exact ModemActor.Linked.new
  · exact fun _ _ => rfl
  · exact fun _ _ isRun => (noRun isRun).elim
  · exact fun _ _ isRun => (noRun isRun).elim
  · exact fun _ _ isRun => (noRun isRun).elim
  · exact fun _ _ _ _ _ isRun => (noRun isRun).elim
  · exact fun _ _ isRun => (noRun isRun).elim

/-- Once the step it awaits has settled, every call of a run has. -/
theorem allSettled (guarded : Guarded l) (isRun : l.runs id = some run)
    (stepped : run.phase.Stepped l) {call : Nat} (mem : call ∈ run.calls) :
    ∃ c result, l.actor.calls call = some c ∧ c.stage = .settled result := by
  by_cases awaits : ∃ rung rest, run.phase = .inActor rung rest call
  · obtain ⟨rung, rest, inActor⟩ := awaits
    exact stepped rung rest call inActor
  · push Not at awaits
    exact guarded.settled id run isRun call mem awaits

/-- A run whose calls have settled goes on outside the actor. -/
theorem put (guarded : Guarded l) {run' : Run ε} (isRun : l.runs id = some run)
    (stepped : run.phase.Stepped l) (request : run'.request = run.request)
    (calls : run'.calls = run.calls) (outside : ∀ rung rest call, run'.phase ≠ .inActor rung rest call)
    (cleared : run'.Cleared l → l.holds run.request.stableKey = none) : Guarded (l.put id run') := by
  have before {j : Nat} {after : Run ε} (isAfter : (l.put id run').runs j = some after) :
      (j = id ∧ after = run') ∨ l.runs j = some after := by
    simp only [RecoveryLadder.put, Function.update_apply] at isAfter
    split at isAfter
    · next eq => exact .inl ⟨eq, (Option.some.inj isAfter).symm⟩
    · exact .inr isAfter
  have same {j : Nat} {after : Run ε} (isAfter : (l.put id run').runs j = some after) :
      ∃ old, l.runs j = some old ∧ after.calls = old.calls ∧ after.request = old.request := by
    obtain ⟨rfl, rfl⟩ | isOld := before isAfter
    · exact ⟨run, isRun, calls, request⟩
    · exact ⟨after, isOld, rfl, rfl⟩
  constructor
  · exact guarded.linked
  · intro j le
    have differs : j ≠ id := by
      rintro rfl
      rw [guarded.fresh j le] at isRun
      cases isRun
    simpa only [RecoveryLadder.put, Function.update_of_ne differs] using guarded.fresh j le
  · intro j after isAfter
    obtain ⟨old, isOld, calls, request⟩ := same isAfter
    rw [calls, request]
    exact guarded.modem j old isOld
  · intro j after isAfter call mem awaits
    obtain ⟨rfl, rfl⟩ | isOld := before isAfter
    · exact guarded.allSettled isRun stepped (calls ▸ mem)
    · exact guarded.settled j after isOld call mem awaits
  · intro j after isAfter rung rest call inActor
    obtain ⟨rfl, rfl⟩ | isOld := before isAfter
    · exact absurd inActor (outside rung rest call)
    · exact guarded.current j after isOld rung rest call inActor
  · intro i j first second call isFirst isSecond mem mem'
    obtain ⟨old, isOld, calls, -⟩ := same isFirst
    obtain ⟨old', isOld', calls', -⟩ := same isSecond
    exact guarded.ownCalls i j old old' call isOld isOld' (calls ▸ mem) (calls' ▸ mem')
  · intro j after isAfter isCleared
    obtain ⟨rfl, rfl⟩ | isOld := before isAfter
    · rw [request]
      exact cleared isCleared
    · exact guarded.cleared j after isOld isCleared

theorem ofState (guarded : Guarded l) (states : JsString → Option RecoveryBudgetState)
    (recoveries : JsString → Nat) : Guarded { l with states, recoveries } :=
  ⟨guarded.linked, guarded.fresh, guarded.modem, guarded.settled, guarded.current,
    guarded.ownCalls, guarded.cleared⟩

/-- The actor goes on; no event of it is undone. -/
theorem onActor (guarded : Guarded l) {actor : ModemActor ε (Option StepOutcome)}
    (linked : ModemActor.Linked actor)
    (later : ∀ call c, l.actor.calls call = some c →
      ∃ c', actor.calls call = some c' ∧ ModemActor.Later c c') : Guarded { l with actor } := by
  constructor
  · exact linked
  · exact guarded.fresh
  · intro id run isRun call mem
    obtain ⟨c, isCall, same⟩ := guarded.modem id run isRun call mem
    obtain ⟨c', isCall', later⟩ := later call c isCall
    exact ⟨c', isCall', later.stableKey.trans same⟩
  · intro id run isRun call mem awaits
    obtain ⟨c, result, isCall, settled⟩ := guarded.settled id run isRun call mem awaits
    obtain ⟨c', isCall', later⟩ := later call c isCall
    exact ⟨c', result, isCall', later.settled result settled⟩
  · exact guarded.current
  · exact guarded.ownCalls
  · intro id run isRun isCleared
    refine guarded.cleared id run isRun ?_
    unfold Run.Cleared at isCleared ⊢
    split at isCleared
    · trivial
    · next rung rest call inActor =>
      -- A call that still waits has waited before.
      obtain ⟨c, isCall, -⟩ :=
        guarded.modem id run isRun call (guarded.current id run isRun rung rest call inActor)
      obtain ⟨c', isCall', later⟩ := later call c isCall
      simp only [isCall', Option.map_some, Option.some.injEq] at isCleared
      simp [isCall, later.queued isCleared]
    · exact isCleared

/-- A run with leave queues a rung in the actor. -/
theorem queue (guarded : Guarded l) (isRun : l.runs id = some run) {rung : RecoveryRung}
    {rest : List RecoveryRung} (allowed : run.phase = .told rung rest none) {reached : Option Nat} :
    Guarded { l.put id { run with
        phase := .inActor rung rest l.actor.submitted
        calls := l.actor.submitted :: run.calls
        reached } with
      actor := l.actor.enqueue run.request.stableKey false } := by
  have kept : Guarded { l with actor := l.actor.enqueue run.request.stableKey false } :=
    guarded.onActor (guarded.linked.enqueue _ _) fun call c isCall =>
      ⟨c, ModemActor.calls_enqueue guarded.linked _ _ isCall, .refl c⟩
  have isNew : (l.actor.enqueue run.request.stableKey false).calls l.actor.submitted =
      some (.new run.request.stableKey false) := by
    simp [ModemActor.enqueue]
  have notOwned {j : Nat} {other : Run ε} (isOther : l.runs j = some other) :
      l.actor.submitted ∉ other.calls := by
    intro mem
    obtain ⟨c, isCall, -⟩ := guarded.modem j other isOther _ mem
    exact Nat.lt_irrefl _ (guarded.linked.calls_lt isCall)
  have outside {call : Nat} (mem : call ∈ run.calls) :
      ∀ rung rest, run.phase ≠ .inActor rung rest call := by
    simp [allowed]
  have before {j : Nat} {after : Run ε} (isAfter : Function.update l.runs id (some { run with
        phase := .inActor rung rest l.actor.submitted
        calls := l.actor.submitted :: run.calls
        reached }) j = some after) :
      (j = id ∧ after = { run with
        phase := .inActor rung rest l.actor.submitted
        calls := l.actor.submitted :: run.calls
        reached }) ∨ j ≠ id ∧ l.runs j = some after := by
    simp only [Function.update_apply] at isAfter
    split at isAfter
    · next eq => exact .inl ⟨eq, (Option.some.inj isAfter).symm⟩
    · next differs => exact .inr ⟨differs, isAfter⟩
  constructor
  · exact kept.linked
  · intro j le
    have differs : j ≠ id := by
      rintro rfl
      rw [guarded.fresh j le] at isRun
      cases isRun
    simpa only [RecoveryLadder.put, Function.update_of_ne differs] using guarded.fresh j le
  · intro j after isAfter call mem
    obtain ⟨rfl, rfl⟩ | ⟨-, isOld⟩ := before isAfter
    · obtain rfl | mem := List.mem_cons.mp mem
      · exact ⟨_, isNew, rfl⟩
      · exact kept.modem j run isRun call mem
    · exact kept.modem j after isOld call mem
  · intro j after isAfter call mem awaits
    obtain ⟨rfl, rfl⟩ | ⟨-, isOld⟩ := before isAfter
    · obtain rfl | mem := List.mem_cons.mp mem
      · exact absurd rfl (awaits rung rest)
      · exact kept.settled j run isRun call mem (outside mem)
    · exact kept.settled j after isOld call mem awaits
  · intro j after isAfter rung' rest' call inActor
    obtain ⟨rfl, rfl⟩ | ⟨-, isOld⟩ := before isAfter
    · cases inActor
      exact List.mem_cons_self
    · exact kept.current j after isOld rung' rest' call inActor
  · intro i j first second call isFirst isSecond mem mem'
    obtain ⟨rfl, rfl⟩ | ⟨-, isOld⟩ := before isFirst
    · obtain ⟨rfl, -⟩ | ⟨-, isOld'⟩ := before isSecond
      · rfl
      · obtain rfl | mem := List.mem_cons.mp mem
        · exact absurd mem' (notOwned isOld')
        · exact guarded.ownCalls i j run second call isRun isOld' mem mem'
    · obtain ⟨rfl, rfl⟩ | ⟨-, isOld'⟩ := before isSecond
      · obtain rfl | mem' := List.mem_cons.mp mem'
        · exact absurd mem (notOwned isOld)
        · exact guarded.ownCalls i j first run call isOld isRun mem mem'
      · exact guarded.ownCalls i j first second call isOld isOld' mem mem'
  · intro j after isAfter isCleared
    obtain ⟨rfl, rfl⟩ | ⟨-, isOld⟩ := before isAfter
    · exact guarded.cleared j run isRun (by simp [Run.Cleared, allowed])
    · exact kept.cleared j after isOld isCleared

theorem turn (guarded : Guarded l) (isRun : l.runs id = some run) {l' : RecoveryLadder ε}
    (turned : Turned l id run l') : Guarded l' := by
  cases turned with
  | same => exact guarded
  | decided rung rest asks =>
    refine guarded.put isRun (by simp [Phase.Stepped, asks]) rfl rfl (by simp) fun isCleared => ?_
    cases hold : l.holds run.request.stableKey with
    | none => rfl
    | some => simp [Run.Cleared, hold] at isCleared
  | powers rest allowed =>
    exact guarded.put isRun (by simp [Phase.Stepped, allowed]) rfl rfl (by simp) False.elim
  | queues rung rest allowed => exact guarded.queue isRun allowed
  | idles phase steps live stepped idle =>
    refine guarded.put isRun stepped rfl rfl ?_ fun isCleared => ?_
    · rintro rung rest call rfl
      exact idle
    · cases phase with
      | told | inActor => exact idle.elim
      | asking | powering | probing | ended | rejected => exact isCleared.elim
  | recovers rung rest probes outcome kind =>
    exact (guarded.ofState _ _).put isRun (by simp [Phase.Stepped, probes]) rfl rfl (by simp) False.elim

theorem request (guarded : Guarded l) {recovery : DesiredRecovery} {request : RecoveryRequest}
    {l' : RecoveryLadder ε} (asked : Requested config l recovery request run l') : Guarded l' := by
  have noCalls := asked.asked.2.2
  have before {j : Nat} {after : Run ε} (isAfter : l'.runs j = some after) :
      (j = l.requested ∧ after = run) ∨ l.runs j = some after := by
    rw [asked.runs, Function.update_apply] at isAfter
    split at isAfter
    · next eq => exact .inl ⟨eq, (Option.some.inj isAfter).symm⟩
    · exact .inr isAfter
  have outside : (∀ rung rest call, run.phase ≠ .inActor rung rest call) ∧
      ∀ rung rest denial, run.phase ≠ .told rung rest denial := by
    have idle := asked.idle
    constructor
    · intro rung rest call inActor
      simp [inActor, Phase.Idle] at idle
    · intro rung rest denial told
      simp [told, Phase.Idle] at idle
  constructor
  · rw [asked.actor]
    exact guarded.linked
  · intro j le
    rw [asked.requested] at le
    rw [asked.runs, Function.update_of_ne (by omega)]
    exact guarded.fresh j (by omega)
  · intro j after isAfter call mem
    rw [asked.actor]
    obtain ⟨-, rfl⟩ | isOld := before isAfter
    · simp [noCalls] at mem
    · exact guarded.modem j after isOld call mem
  · intro j after isAfter call mem awaits
    rw [asked.actor]
    obtain ⟨-, rfl⟩ | isOld := before isAfter
    · simp [noCalls] at mem
    · exact guarded.settled j after isOld call mem awaits
  · intro j after isAfter rung rest call inActor
    obtain ⟨-, rfl⟩ | isOld := before isAfter
    · exact absurd inActor (outside.1 rung rest call)
    · exact guarded.current j after isOld rung rest call inActor
  · intro i j first second call isFirst isSecond mem mem'
    obtain ⟨-, rfl⟩ | isOld := before isFirst
    · simp [noCalls] at mem
    · obtain ⟨-, rfl⟩ | isOld' := before isSecond
      · simp [noCalls] at mem'
      · exact guarded.ownCalls i j first second call isOld isOld' mem mem'
  · intro j after isAfter isCleared
    rw [asked.holds]
    obtain ⟨-, rfl⟩ | isOld := before isAfter
    · unfold Run.Cleared at isCleared
      split at isCleared
      · next told => exact absurd told (outside.2 _ _ _)
      · next inActor => exact absurd inActor (outside.1 _ _ _)
      · exact isCleared.elim
    · refine guarded.cleared j after isOld ?_
      simpa only [Run.Cleared, asked.actor] using isCleared

/-- A change of the holds that leaves the cleared runs alone. -/
theorem onHolds (guarded : Guarded l) {holds : JsString → Option JsString}
    (cleared : ∀ id run, l.runs id = some run → run.Cleared l →
      holds run.request.stableKey = none) : Guarded { l with holds } :=
  ⟨guarded.linked, guarded.fresh, guarded.modem, guarded.settled, guarded.current,
    guarded.ownCalls, cleared⟩

theorem step (guarded : Guarded l) {event : Event ε} (apart : HoldsApart l event) :
    Guarded (l.step config event) := by
  refine step_cases event guarded ?_ ?_ ?_ ?_ ?_
  · intro recovery request _
    obtain ⟨run, asked⟩ := requested_request recovery request
    exact guarded.request asked
  · exact fun id run l' isRun turned => guarded.turn isRun turned
  · exact fun inner _ => guarded.onActor (guarded.linked.step inner) fun call c isCall =>
      ModemActor.later_step guarded.linked inner isCall
  · intro stableKey hold begins
    refine guarded.onHolds fun id run isRun isCleared => ?_
    rw [Function.update_apply]
    split
    · next same =>
      cases hold with
      | none => rfl
      | some reason =>
        rw [begins reason rfl] at apart
        exact absurd isCleared (apart id run isRun same)
    · exact guarded.cleared id run isRun isCleared
  · exact fun stableKey _ => guarded.ofState _ l.recoveries

theorem collisionFree (guarded : Guarded l) : CollisionFree l := by
  constructor
  · exact guarded.modem
  · rintro stableKey call other ⟨c, isCall, rfl, underway⟩ ⟨c', isOther, same, underway'⟩
    have inPhase := guarded.linked.inPhase isCall
    have inPhase' := guarded.linked.inPhase isOther
    rw [underway] at inPhase
    rw [underway', same] at inPhase'
    exact guarded.linked.chain.exclusive inPhase inPhase'
  · rintro id run isRun call mem ⟨c, isCall, -, underway⟩
    by_contra outside
    push Not at outside
    obtain ⟨c', result, isCall', settled⟩ := guarded.settled id run isRun call mem outside
    cases isCall.symm.trans isCall'
    rw [settled] at underway
    cases underway
  · exact guarded.ownCalls

/-- The start of a rung in the actor: the run had leave. -/
theorem cleared_of_queued (guarded : Guarded l) (isRun : l.runs id = some run) {call : Nat}
    (mem : call ∈ run.calls)
    (queued : (l.actor.calls call).map ModemActor.Call.stage = some .queued) : run.Cleared l := by
  by_cases awaits : ∃ rung rest, run.phase = .inActor rung rest call
  · obtain ⟨rung, rest, inActor⟩ := awaits
    simpa only [Run.Cleared, inActor] using queued
  · push Not at awaits
    obtain ⟨c, result, isCall, settled⟩ := guarded.settled id run isRun call mem awaits
    simp [isCall, settled] at queued

/-- The call of the power hook: the run had leave. -/
theorem cleared_of_powering {event : Event ε} {run' : Run ε} {rest : List RecoveryRung}
    (guarded : Guarded l) (isRun : l.runs id = some run) (still : ∀ rest, run.phase ≠ .powering rest)
    (isRun' : (l.step config event).runs id = some run') (powers : run'.phase = .powering rest) :
    run.Cleared l := by
  have unchanged (same : l.runs id = some run') : run.Cleared l := by
    cases isRun.symm.trans same
    exact absurd powers (still rest)
  have put {other : Nat} {after : Run ε} (outside : ∀ rest, after.phase ≠ .powering rest)
      (same : Function.update l.runs other (some after) id = some run') : run.Cleared l := by
    rw [Function.update_apply] at same
    split at same
    · cases same
      exact absurd powers (outside rest)
    · exact unchanged same
  refine step_cases (P := fun l' => l'.runs id = some run' → run.Cleared l) event unchanged
    ?_ ?_ ?_ ?_ ?_ isRun'
  · intro recovery request _ isRun'
    obtain ⟨new, asked⟩ := requested_request recovery request
    rw [asked.runs, Function.update_of_ne (lt_requested guarded.fresh isRun).ne] at isRun'
    exact unchanged isRun'
  · intro other before l' isBefore turned isRun'
    cases turned with
    | same => exact unchanged isRun'
    | decided => exact put (by simp) isRun'
    | powers rest allowed =>
      simp only [RecoveryLadder.put, Function.update_apply] at isRun'
      split at isRun'
      · next eq =>
        subst eq
        cases isRun.symm.trans isBefore
        simp [Run.Cleared, allowed]
      · exact unchanged isRun'
    | queues => exact put (by simp) isRun'
    | idles phase steps live stepped idle =>
      refine put (fun rest powering => ?_) isRun'
      rw [show phase = .powering rest from powering] at idle
      exact idle
    | recovers => exact put (by simp) isRun'
  · exact fun _ _ => unchanged
  · exact fun _ _ _ => unchanged
  · exact fun _ _ => unchanged

theorem unhindered (guarded : Guarded l) (event : Event ε) :
    Unhindered l (l.step config event) := by
  rintro id run isRun ⟨run', isRun', starts⟩
  cases isRun.symm.trans isRun'
  refine guarded.cleared id run isRun ?_
  obtain ⟨call, mem, queued, -⟩ | ⟨still, run', rest, isRun', powers⟩ := starts
  · exact guarded.cleared_of_queued isRun mem queued
  · exact guarded.cleared_of_powering isRun still isRun' powers

end Guarded

/-- In a run in which no hold begins on a modem while a run of it has leave for a rung that has
not started, recovery keeps clear of other work and of every hold. -/
theorem unhindered_run (config : RecoveryLadderConfig) (events : List (Event ε))
    (apart : AllowsEvents (RecoveryLadder.step config) HoldsApart .new events) :
    CollisionFree (RecoveryLadder.run config events) ∧
      ∀ event, Unhindered (RecoveryLadder.run config events)
        ((RecoveryLadder.run config events).step config event) := by
  have guarded : Guarded (RecoveryLadder.run config events) :=
    foldl_invariant (fun _ _ guarded apart => guarded.step apart) Guarded.new apart
  exact ⟨guarded.collisionFree, guarded.unhindered⟩

/-- A stream ends; a recovery passes the interlock and waits behind another task of its modem,
which ends. -/
def runQueued : List (Event JsString) :=
  [.beginHold (js "slot:a") (js "streaming"), .endHold (js "slot:a"),
    .actor (.run (js "slot:a")), .actor (.resume 0 .priorSettled), .run ⟨true⟩ ⟨js "slot:a", .modemFault, 0⟩, .decided 0, .told 0,
    .actor (.resume 0 (.task (.ok none)))]

theorem unhindered_queued :
    CollisionFree (RecoveryLadder.run DEFAULT_LADDER_CONFIG runQueued) ∧
      Unhindered (RecoveryLadder.run DEFAULT_LADDER_CONFIG runQueued)
        ((RecoveryLadder.run DEFAULT_LADDER_CONFIG runQueued).step DEFAULT_LADDER_CONFIG
          (.actor (.resume 1 .priorSettled))) := by
  have noRun (id : Nat) (run : Run JsString)
      (isRun : (RecoveryLadder.new : RecoveryLadder JsString).runs id = some run) :
      run.request.stableKey = js "slot:a" → ¬ run.Cleared .new := by
    simp [RecoveryLadder.new] at isRun
  have safe := unhindered_run DEFAULT_LADDER_CONFIG runQueued ⟨noRun, trivial, trivial, trivial,
    trivial, trivial, trivial, trivial, trivial⟩
  exact ⟨safe.1, safe.2 _⟩

/-- A hold begins while the rung waits: the rung starts nevertheless. -/
theorem unhindered_fails :
    ¬ ∀ event, Unhindered
      (RecoveryLadder.run DEFAULT_LADDER_CONFIG
        (runQueued ++ [.beginHold (js "slot:a") (js "streaming")]))
      ((RecoveryLadder.run DEFAULT_LADDER_CONFIG
        (runQueued ++ [.beginHold (js "slot:a") (js "streaming")])).step DEFAULT_LADDER_CONFIG
          event) := by
  intro unhindered
  have denied := unhindered (.actor (.resume 1 .priorSettled)) 0 _ rfl
    ⟨_, rfl, .inl ⟨1, List.mem_cons_self, rfl, rfl⟩⟩
  cases denied

end RecoveryLadder

end ModemStack.Backend
