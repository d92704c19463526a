import ModemStack.Async.SerialQueue
import ModemStack.Async.Steps
import ModemStack.Text.JsString

/-!
The shared per-modem actor: one promise chain for each stable key.

An event is a call of `run` or `runQuiesced`, or the moment a promise that a call awaits
settles. A task that throws synchronously settles in the turn that calls it; acquisition,
task and release are the environment's, which may answer at any time and in any way.
-/

namespace ModemStack.Backend

open ModemStack.Async ModemStack.Text

variable {ε α : Type}

namespace ModemActor

/-- Where a call stands: behind the tail it was chained to, awaiting `acquire`, its task or
`release`, or settled with what its caller receives. -/
inductive Stage (ε α : Type) where
  | queued
  | acquiring
  | running
  | releasing (outcome : Except ε α)
  | settled (result : Except ε α)
deriving DecidableEq

def Stage.phase : Stage ε α → Phase
  | .queued => .queued
  | .settled _ => .settled
  | _ => .running

/-- A call of `run` or `runQuiesced`. Kept for the proofs: the answers it has received, how
often it has called its task and `release`. `cleanedUp`: the reaction that drops the entry of
its key has run. -/
structure Call (ε α : Type) where
  stableKey : JsString
  quiesced : Bool
  stage : Stage ε α
  acquired : Option (Except ε Unit)
  outcome : Option (Except ε α)
  release : Option (Except ε Unit)
  starts : Nat
  releases : Nat
  cleanedUp : Bool

/-- What a call has been waiting for. -/
inductive Answer (ε α : Type) where
  | priorSettled
  | acquired (answer : Except ε Unit)
  | task (outcome : Except ε α)
  | released (answer : Except ε Unit)

namespace Call

def new (stableKey : JsString) (quiesced : Bool) : Call ε α :=
  ⟨stableKey, quiesced, .queued, none, none, none, 0, 0, false⟩

/-- `task()` -/
def invoke (call : Call ε α) : Call ε α :=
  { call with stage := .running, starts := call.starts + 1 }

/-- The task has settled; a quiesced call gives its lease back first. -/
def finish (call : Call ε α) (outcome : Except ε α) : Call ε α :=
  if call.quiesced then
    { call with
      stage := .releasing outcome
      outcome := some outcome
      releases := call.releases + 1 }
  else { call with stage := .settled outcome, outcome := some outcome }

/-- Go on with an answer, if it is what the call awaits. -/
def resume (call : Call ε α) (answer : Answer ε α) : Option (Call ε α) :=
  match call.stage, answer with
  | .queued, .priorSettled =>
    some (if call.quiesced then { call with stage := .acquiring } else call.invoke)
  | .acquiring, .acquired (.ok ()) => some { call.invoke with acquired := some (.ok ()) }
  | .acquiring, .acquired (.error e) =>
    some { call with stage := .settled (.error e), acquired := some (.error e) }
  | .running, .task outcome => some (call.finish outcome)
  | .releasing outcome, .released (.ok ()) =>
    some { call with stage := .settled outcome, release := some (.ok ()) }
  -- A rejection in `finally` replaces the outcome of the task.
  | .releasing _, .released (.error e) =>
    some { call with stage := .settled (.error e), release := some (.error e) }
  | _, _ => none

end Call

inductive Event (ε α : Type) where
  | run (stableKey : JsString)
  | runQuiesced (stableKey : JsString)
  | resume (id : Nat) (answer : Answer ε α)
  | cleanUp (id : Nat)

end ModemActor

/-- The chains and every call made so far, numbered in the order of submission. -/
structure ModemActor (ε α : Type) where
  tails : SerialQueue JsString
  calls : Nat → Option (ModemActor.Call ε α)
  submitted : Nat

namespace ModemActor

def new : ModemActor ε α := ⟨.empty, fun _ => none, 0⟩

def enqueue (a : ModemActor ε α) (stableKey : JsString) (quiesced : Bool) : ModemActor ε α where
  tails := a.tails.enqueue a.submitted stableKey
  calls := Function.update a.calls a.submitted (some (.new stableKey quiesced))
  submitted := a.submitted + 1

def put (a : ModemActor ε α) (id : Nat) (call : Call ε α) : ModemActor ε α :=
  { a with
    tails := a.tails.setPhase id call.stage.phase
    calls := Function.update a.calls id (some call) }

/-- A call is answered. That the job ahead has settled it learns only when that is so. -/
def resume (a : ModemActor ε α) (id : Nat) (answer : Answer ε α) : ModemActor ε α :=
  match (a.calls id).bind fun call => call.resume answer with
  | none => a
  | some call =>
    match answer with
    | .priorSettled => if a.tails.Ready id then a.put id call else a
    | _ => a.put id call

def cleanUp (a : ModemActor ε α) (id : Nat) : ModemActor ε α :=
  match a.calls id with
  | none => a
  | some call =>
    match call.stage with
    | .settled _ =>
      { a with
        tails := if a.tails.tails call.stableKey = some id then a.tails.drop call.stableKey
          else a.tails
        calls := Function.update a.calls id (some { call with cleanedUp := true }) }
    | _ => a

def step (a : ModemActor ε α) : Event ε α → ModemActor ε α
  | .run stableKey => a.enqueue stableKey false
  | .runQuiesced stableKey => a.enqueue stableKey true
  | .resume id answer => a.resume id answer
  | .cleanUp id => a.cleanUp id

def run (events : List (Event ε α)) : ModemActor ε α := events.foldl step new

/-! ### What a call keeps -/

/-- The stage of a call and its record agree. -/
def Call.Kept (call : Call ε α) : Prop :=
  match call.stage with
  | .queued => call.starts = 0 ∧ call.releases = 0 ∧ call.acquired = none ∧ call.outcome = none ∧
      call.release = none ∧ call.cleanedUp = false
  | .acquiring => call.quiesced ∧ call.starts = 0 ∧ call.releases = 0 ∧ call.acquired = none ∧
      call.outcome = none ∧ call.release = none ∧ call.cleanedUp = false
  | .running => call.starts = 1 ∧ call.releases = 0 ∧ call.outcome = none ∧ call.release = none ∧
      call.acquired = (if call.quiesced then some (.ok ()) else none) ∧ call.cleanedUp = false
  | .releasing outcome => call.starts = 1 ∧ call.releases = 1 ∧ call.outcome = some outcome ∧
      call.release = none ∧ call.acquired = some (.ok ()) ∧ call.cleanedUp = false
  | .settled result =>
    (∃ e, call.acquired = some (.error e) ∧ call.starts = 0 ∧ call.releases = 0 ∧
      call.outcome = none ∧ result = .error e) ∨
    ∃ outcome, call.starts = 1 ∧ call.outcome = some outcome ∧
      (call.acquired = none ∧ call.releases = 0 ∧ call.release = none ∧ result = outcome ∨
        call.acquired = some (.ok ()) ∧ call.releases = 1 ∧
          (call.release = some (.ok ()) ∧ result = outcome ∨
            ∃ e, call.release = some (.error e) ∧ result = .error e))

theorem Call.Kept.new {stableKey : JsString} {quiesced : Bool} :
    (Call.new stableKey quiesced : Call ε α).Kept := by
  simp [Call.Kept, Call.new]

/-- What an answer does to a call. -/
structure Resumed (call call' : Call ε α) (answer : Answer ε α) : Prop where
  stableKey : call'.stableKey = call.stableKey
  left : ∀ result, call.stage ≠ .settled result
  waited : answer = .priorSettled ↔ call.stage = .queued
  begun : call'.stage ≠ .queued
  cleanedUp : call'.cleanedUp = call.cleanedUp
  kept : call.Kept → call'.Kept

theorem Call.resumed {call call' : Call ε α} {answer : Answer ε α}
    (resumes : call.resume answer = some call') : Resumed call call' answer := by
  obtain ⟨stableKey, quiesced, stage, acquired, outcome, release, starts, releases, cleanedUp⟩ := call
  unfold Call.resume at resumes
  split at resumes <;> cases resumes
  next isStage =>
    cases isStage
    cases quiesced
    · constructor <;> simp [Call.Kept, Call.invoke]
      grind
    · constructor <;> simp [Call.Kept]
  next isStage =>
    cases isStage
    constructor <;> simp [Call.Kept, Call.invoke]
    grind
  next isStage =>
    cases isStage
    constructor <;> simp [Call.Kept]
    grind
  next outcome isStage =>
    cases isStage
    cases quiesced
    · constructor <;> simp [Call.Kept, Call.finish]
      grind
    · constructor <;> simp [Call.Kept, Call.finish]
      grind
  next isStage =>
    cases isStage
    constructor <;> simp [Call.Kept]
    grind
  next isStage =>
    cases isStage
    constructor <;> simp [Call.Kept]
    grind

/-! ### What the actor keeps -/

structure Linked (a : ModemActor ε α) : Prop where
  chain : a.tails.Chain
  fresh : a.tails.Fresh a.submitted
  agrees : ∀ id, (a.tails.jobs id).map (fun job => (job.key, job.phase)) =
    (a.calls id).map fun call => (call.stableKey, call.stage.phase)
  kept : ∀ id call, a.calls id = some call → call.Kept
  tail : ∀ key t, a.tails.tails key = some t → ∃ call, a.calls t = some call ∧
    call.cleanedUp = false

namespace Linked

variable {a : ModemActor ε α} {id : Nat} {call call' : Call ε α}

theorem new : Linked (.new : ModemActor ε α) where
  chain := SerialQueue.chain_empty
  fresh _ _ := rfl
  agrees _ := rfl
  kept := nofun
  tail := nofun

theorem inPhase (linked : Linked a) (isCall : a.calls id = some call) :
    a.tails.InPhase id call.stableKey call.stage.phase := by
  have agrees := linked.agrees id
  rw [isCall] at agrees
  obtain ⟨⟨key, prior, phase⟩, isJob, same⟩ := Option.map_eq_some_iff.mp agrees
  cases same
  exact ⟨prior, isJob⟩

theorem call_of_job (linked : Linked a) {job : Job JsString} (isJob : a.tails.jobs id = some job) :
    ∃ call, a.calls id = some call ∧ call.stableKey = job.key ∧ call.stage.phase = job.phase := by
  obtain ⟨key, prior, phase⟩ := job
  have agrees := linked.agrees id
  rw [isJob] at agrees
  obtain ⟨call, isCall, same⟩ := Option.map_eq_some_iff.mp agrees.symm
  cases same
  exact ⟨call, isCall, rfl, rfl⟩

theorem enqueue (linked : Linked a) (stableKey : JsString) (quiesced : Bool) :
    Linked (a.enqueue stableKey quiesced) where
  chain := linked.chain.enqueue linked.fresh
  fresh := SerialQueue.fresh_enqueue linked.fresh
  agrees id := by
    simp only [ModemActor.enqueue, SerialQueue.jobs_enqueue, Function.update_apply]
    split
    · rfl
    · exact linked.agrees id
  kept id call isCall := by
    simp only [ModemActor.enqueue, Function.update_apply] at isCall
    split at isCall
    · cases isCall
      exact Call.Kept.new
    · exact linked.kept id call isCall
  tail key t isTail := by
    simp only [ModemActor.enqueue, SerialQueue.tails_enqueue, Function.update_apply] at isTail ⊢
    split at isTail
    · cases isTail
      exact ⟨_, if_pos rfl, rfl⟩
    · obtain ⟨call, isCall, pending⟩ := linked.tail key t isTail
      obtain ⟨prior, isJob⟩ := linked.inPhase isCall
      exact ⟨call, by rw [if_neg (linked.fresh.lt isJob).ne, isCall], pending⟩

theorem put (linked : Linked a) {answer : Answer ε α} (isCall : a.calls id = some call)
    (resumed : Resumed call call' answer) (due : answer = .priorSettled → a.tails.Ready id) :
    Linked (a.put id call') where
  chain := by
    obtain ⟨prior, isJob⟩ := linked.inPhase isCall
    refine linked.chain.setPhase ?_ ?_
    · intro job isJob' _ j other isOther same lt
      cases isJob.symm.trans isJob'
      by_cases waits : answer = .priorSettled
      · exact linked.chain.before_ready (due waits) isJob isOther same lt
      · refine linked.chain.started id _ isJob (fun queued => waits ?_) j other isOther same lt
        refine resumed.waited.mpr ?_
        generalize call.stage = stage at queued
        cases stage <;> simp [Stage.phase] at queued ⊢
    · intro job isJob' settled
      cases isJob.symm.trans isJob'
      have left := resumed.left
      generalize call.stage = stage at left settled
      cases stage with
      | settled result => exact absurd rfl (left result)
      | queued | acquiring | running | releasing => cases settled
  fresh := SerialQueue.fresh_setPhase linked.fresh
  agrees id' := by
    simp only [ModemActor.put, SerialQueue.jobs_setPhase, Function.update_apply]
    split
    · obtain ⟨prior, isJob⟩ := linked.inPhase isCall
      simp [isJob, resumed.stableKey]
    · exact linked.agrees id'
  kept id' other isOther := by
    simp only [ModemActor.put, Function.update_apply] at isOther
    split at isOther
    · cases isOther
      exact resumed.kept (linked.kept id call isCall)
    · exact linked.kept id' other isOther
  tail key t isTail := by
    obtain ⟨other, isOther, pending⟩ := linked.tail key t isTail
    by_cases same : t = id
    · subst same
      cases isCall.symm.trans isOther
      exact ⟨call', by simp [ModemActor.put], resumed.cleanedUp.trans pending⟩
    · exact ⟨other, by simp [ModemActor.put, Function.update_of_ne same, isOther], pending⟩

theorem resume (linked : Linked a) (id : Nat) (answer : Answer ε α) :
    Linked (a.resume id answer) := by
  unfold ModemActor.resume
  split
  · exact linked
  · next call' resumes =>
    obtain ⟨call, isCall, resumes⟩ := Option.bind_eq_some_iff.mp resumes
    have resumed := Call.resumed resumes
    split
    · split
      · next ready => exact linked.put isCall resumed fun _ => ready
      · exact linked
    · next other => exact linked.put isCall resumed fun waits => absurd waits other

theorem cleanUp (linked : Linked a) (id : Nat) : Linked (a.cleanUp id) := by
  unfold ModemActor.cleanUp
  split
  · exact linked
  · next call isCall =>
    split
    · next result settled =>
      have phase := linked.inPhase isCall
      rw [settled] at phase
      have sameJobs (key : JsString) : (if a.tails.tails key = some id then a.tails.drop key
          else a.tails).jobs = a.tails.jobs := by
        split <;> rfl
      constructor
      · by_cases isTail : a.tails.tails call.stableKey = some id
        · simp only [if_pos isTail]
          refine linked.chain.drop fun t isTail' => ?_
          cases isTail.symm.trans isTail'
          exact phase
        · simp only [if_neg isTail]
          exact linked.chain
      · intro j le
        rw [sameJobs]
        exact linked.fresh j le
      · intro id'
        simp only [sameJobs, Function.update_apply]
        split
        · next same =>
          rw [same, linked.agrees id, isCall]
          rfl
        · exact linked.agrees id'
      · intro id' other isOther
        simp only [Function.update_apply] at isOther
        split at isOther
        · cases isOther
          have kept := linked.kept id call isCall
          simpa only [Call.Kept, settled] using kept
        · exact linked.kept id' other isOther
      · intro key t isTail
        have before : a.tails.tails key = some t ∧ t ≠ id := by
          split at isTail
          · next entry =>
            simp only [SerialQueue.drop, Function.update_apply] at isTail
            split at isTail
            · cases isTail
            · next differs =>
              refine ⟨isTail, fun same => differs ?_⟩
              obtain ⟨job, isJob, isKey⟩ := linked.chain.tail_key key t isTail
              obtain ⟨job', isJob', isKey'⟩ := linked.chain.tail_key _ id entry
              subst same
              cases isJob.symm.trans isJob'
              exact isKey.symm.trans isKey'
          · next noEntry =>
            refine ⟨isTail, fun same => noEntry ?_⟩
            obtain ⟨job, isJob, isKey⟩ := linked.chain.tail_key key t isTail
            subst same
            obtain ⟨prior, isJob'⟩ := phase
            cases isJob.symm.trans isJob'
            rw [← isTail, ← isKey]
        obtain ⟨other, isOther, pending⟩ := linked.tail key t before.1
        exact ⟨other, by simp [Function.update_of_ne before.2, isOther], pending⟩
    · exact linked

theorem step (linked : Linked a) (event : Event ε α) : Linked (a.step event) := by
  cases event with
  | run stableKey => exact linked.enqueue stableKey false
  | runQuiesced stableKey => exact linked.enqueue stableKey true
  | resume id answer => exact linked.resume id answer
  | cleanUp id => exact linked.cleanUp id

theorem run (events : List (Event ε α)) : Linked (ModemActor.run events) :=
  foldl_keeps (fun _ event linked => linked.step event) new

end Linked

/-! ### What no event undoes -/

section Later

variable {a : ModemActor ε α} {id : Nat} {call call' : Call ε α}

/-- A settled call stays settled, one that has begun does not wait again. -/
structure Later (call call' : Call ε α) : Prop where
  stableKey : call'.stableKey = call.stableKey
  quiesced : call'.quiesced = call.quiesced
  settled : ∀ result, call.stage = .settled result → call'.stage = .settled result
  queued : call'.stage = .queued → call.stage = .queued

theorem Later.refl (call : Call ε α) : Later call call :=
  ⟨rfl, rfl, fun _ settled => settled, fun queued => queued⟩

variable {answer : Answer ε α}

theorem Call.later_of_resume (resumes : call.resume answer = some call') : Later call call' := by
  have resumed := Call.resumed resumes
  refine ⟨resumed.stableKey, ?_, fun result settled => absurd settled (resumed.left result),
    fun queued => absurd queued resumed.begun⟩
  obtain ⟨stableKey, quiesced, stage, acquired, outcome, release, starts, releases, cleanedUp⟩ := call
  unfold Call.resume at resumes
  split at resumes <;> cases resumes
  next isStage => cases quiesced <;> rfl
  next isStage => rfl
  next isStage => rfl
  next isStage => cases quiesced <;> rfl
  next isStage => rfl
  next isStage => rfl

theorem later_put {other : Call ε α} (isCall : a.calls id = some call) (later : Later call call')
    {i : Nat} (isOther : a.calls i = some other) :
    ∃ other', (a.put id call').calls i = some other' ∧ Later other other' := by
  simp only [put, Function.update_apply]
  split
  · next eq =>
    subst eq
    cases isCall.symm.trans isOther
    exact ⟨call', rfl, later⟩
  · exact ⟨other, isOther, .refl other⟩

theorem Linked.calls_lt (linked : Linked a) (isCall : a.calls id = some call) : id < a.submitted := by
  obtain ⟨prior, isJob⟩ := linked.inPhase isCall
  exact linked.fresh.lt isJob

theorem calls_enqueue (linked : Linked a) (stableKey : JsString) (quiesced : Bool)
    (isCall : a.calls id = some call) : (a.enqueue stableKey quiesced).calls id = some call := by
  have lt := linked.calls_lt isCall
  simp only [enqueue, Function.update_of_ne lt.ne, isCall]

theorem later_step (linked : Linked a) (event : Event ε α) (isCall : a.calls id = some call) :
    ∃ call', (a.step event).calls id = some call' ∧ Later call call' := by
  cases event with
  | run stableKey => exact ⟨call, calls_enqueue linked stableKey false isCall, .refl call⟩
  | runQuiesced stableKey => exact ⟨call, calls_enqueue linked stableKey true isCall, .refl call⟩
  | resume =>
    simp only [step, resume]
    split
    · exact ⟨call, isCall, .refl call⟩
    · next after resumes =>
      obtain ⟨before, isBefore, resumes⟩ := Option.bind_eq_some_iff.mp resumes
      have later := Call.later_of_resume resumes
      split
      · split
        · exact later_put isBefore later isCall
        · exact ⟨call, isCall, .refl call⟩
      · exact later_put isBefore later isCall
  | cleanUp =>
    simp only [step, cleanUp]
    split
    · exact ⟨call, isCall, .refl call⟩
    · next before isBefore =>
      split
      · simp only [Function.update_apply]
        split
        · next eq =>
          subst eq
          cases isBefore.symm.trans isCall
          exact ⟨_, rfl, rfl, rfl, fun _ settled => settled, fun queued => queued⟩
        · exact ⟨call, isCall, .refl call⟩
      · exact ⟨call, isCall, .refl call⟩

/-! ### One call among the others -/

/-- Only that the reaction that drops its entry has run may differ. -/
structure Alike (call call' : Call ε α) : Prop where
  stableKey : call'.stableKey = call.stableKey
  quiesced : call'.quiesced = call.quiesced
  stage : call'.stage = call.stage

theorem Alike.refl (call : Call ε α) : Alike call call := ⟨rfl, rfl, rfl⟩

@[simp] theorem submitted_resume : (a.resume id answer).submitted = a.submitted := by
  unfold resume
  split
  · rfl
  · split
    · split <;> rfl
    · rfl

theorem calls_resume {i : Nat} (differs : i ≠ id) : (a.resume id answer).calls i = a.calls i := by
  unfold resume
  split
  · rfl
  · split
    · split
      · simp [put, differs]
      · rfl
    · simp [put, differs]

theorem alike_cleanUp (i : Nat) (isCall : a.calls id = some call) :
    ∃ call', (a.cleanUp i).calls id = some call' ∧ Alike call call' := by
  unfold cleanUp
  split
  · exact ⟨call, isCall, .refl call⟩
  · next other isOther =>
    split
    · simp only [Function.update_apply]
      split
      · next eq =>
        subst eq
        cases isOther.symm.trans isCall
        exact ⟨_, rfl, rfl, rfl, rfl⟩
      · exact ⟨call, isCall, .refl call⟩
    · exact ⟨call, isCall, .refl call⟩

/-- What is done to the other calls leaves a call as it is. -/
theorem alike_step (linked : Linked a) (event : Event ε α) (isCall : a.calls id = some call)
    (elsewhere : ∀ answer, event ≠ .resume id answer) :
    ∃ call', (a.step event).calls id = some call' ∧ Alike call call' := by
  cases event with
  | run stableKey => exact ⟨call, calls_enqueue linked stableKey false isCall, .refl call⟩
  | runQuiesced stableKey => exact ⟨call, calls_enqueue linked stableKey true isCall, .refl call⟩
  | resume i answer =>
    have differs : id ≠ i := by
      rintro rfl
      exact elsewhere answer rfl
    exact ⟨call, (calls_resume differs).trans isCall, .refl call⟩
  | cleanUp i => exact alike_cleanUp i isCall

/-- A task without a lease begins when its turn comes. -/
theorem resume_begins (isCall : a.calls id = some call) (queued : call.stage = .queued)
    (plain : call.quiesced = false) (ready : a.tails.Ready id) :
    (a.resume id .priorSettled).calls id = some call.invoke := by
  simp [resume, isCall, Call.resume, queued, plain, ready, put]

/-- A task without a lease settles its call. -/
theorem resume_ends (isCall : a.calls id = some call) (running : call.stage = .running)
    (plain : call.quiesced = false) (outcome : Except ε α) :
    (a.resume id (.task outcome)).calls id =
      some { call with stage := .settled outcome, outcome := some outcome } := by
  simp [resume, isCall, Call.resume, running, plain, put, Call.finish]

/-- How many answers lie between a stage and its end, at most. -/
def Stage.rank : Stage ε α → Nat
  | .queued => 4
  | .acquiring => 3
  | .running => 2
  | .releasing _ => 1
  | .settled _ => 0

theorem Call.rank_resume (resumes : call.resume answer = some call') :
    call'.stage.rank < call.stage.rank := by
  unfold Call.resume at resumes
  split at resumes <;> cases resumes
  next isStage => rw [isStage]; split <;> simp [Stage.rank, invoke]
  next isStage => simp [isStage, Stage.rank, invoke]
  next isStage => simp [isStage, Stage.rank]
  next isStage =>
    rw [isStage]
    unfold finish
    split <;> simp [Stage.rank]
  next isStage => simp [isStage, Stage.rank]
  next isStage => simp [isStage, Stage.rank]

/-- How many answers a call still takes, at most. -/
def rank (a : ModemActor ε α) (id : Nat) : Nat := (a.calls id).elim 0 fun call => call.stage.rank

theorem submitted_step (event : Event ε α) : a.submitted ≤ (a.step event).submitted := by
  cases event with
  | run | runQuiesced => exact Nat.le_succ _
  | resume => exact Nat.le_of_eq submitted_resume.symm
  | cleanUp =>
    simp only [step, cleanUp]
    split
    · exact Nat.le_refl _
    · split <;> exact Nat.le_refl _

theorem calls_resume_self (isCall : a.calls id = some call)
    (resumes : call.resume answer = some call') (due : answer = .priorSettled → a.tails.Ready id) :
    (a.resume id answer).calls id = some call' := by
  simp only [resume, isCall, Option.bind_some, resumes]
  split
  · rw [if_pos (due rfl)]
    simp [put]
  · simp [put]

/-- An answer takes its call nearer to its end. -/
theorem rank_resume (isCall : a.calls id = some call) (resumes : (call.resume answer).isSome)
    (due : answer = .priorSettled → a.tails.Ready id) :
    (a.resume id answer).rank id < a.rank id := by
  obtain ⟨call', resumes⟩ := Option.isSome_iff_exists.mp resumes
  simpa [rank, isCall, calls_resume_self isCall resumes due] using Call.rank_resume resumes

/-- No event takes a call further from its end. -/
theorem rank_step (event : Event ε α) (lt : id < a.submitted) :
    (a.step event).rank id ≤ a.rank id := by
  cases event with
  | run | runQuiesced => simp [step, enqueue, rank, Function.update_of_ne lt.ne]
  | resume i answer =>
    by_cases same : i = id
    · subst same
      by_cases taken : ∃ call, a.calls i = some call ∧ (call.resume answer).isSome ∧
          (answer = .priorSettled → a.tails.Ready i)
      · obtain ⟨call, isCall, resumes, due⟩ := taken
        exact Nat.le_of_lt (rank_resume isCall resumes due)
      · have unchanged : a.resume i answer = a := by
          unfold resume
          split
          · rfl
          · next call' resumes =>
            obtain ⟨call, isCall, resumes⟩ := Option.bind_eq_some_iff.mp resumes
            have refused (due : answer = .priorSettled → a.tails.Ready i) : False :=
              taken ⟨call, isCall, Option.isSome_of_eq_some resumes, due⟩
            split
            · exact if_neg fun ready => refused fun _ => ready
            · next other => exact (refused fun waits => absurd waits other).elim
        simp [step, unchanged]
    · simp [step, rank, calls_resume (Ne.symm same)]
  | cleanUp =>
    simp only [step, cleanUp]
    split
    · exact Nat.le_refl _
    · next call isCall =>
      split
      · simp only [rank, Function.update_apply]
        split
        · next eq => simp [eq, isCall]
        · exact Nat.le_refl _
      · exact Nat.le_refl _

end Later

/-! ### Serialization -/

/-- The acquisition of the lease has rejected. -/
def Call.refused (call : Call ε α) : Bool := call.acquired matches some (.error _)

/-- The lease has been acquired. -/
def Call.leased (call : Call ε α) : Bool := call.acquired matches some (.ok ())

/-- What the caller of a settled call receives: a rejected acquisition or release, else the
outcome of its task. -/
def Call.owed (call : Call ε α) : Option (Except ε α) :=
  match call.acquired, call.release with
  | some (.error e), _ => some (.error e)
  | _, some (.error e) => some (.error e)
  | _, _ => call.outcome

structure Serialized (a : ModemActor ε α) : Prop where
  inOrder : ∀ i j call call', a.calls i = some call → a.calls j = some call' →
    call.stableKey = call'.stableKey → i < j → call'.stage ≠ .queued →
    ∃ result, call.stage = .settled result
  waits : ∀ id call, a.calls id = some call → call.stage = .queued → (a.tails.Ready id ↔
    ∀ j other, a.calls j = some other → other.stableKey = call.stableKey → j < id →
      ∃ result, other.stage = .settled result)
  goesOn : ∀ id call, a.calls id = some call → (∀ result, call.stage ≠ .settled result) →
    ∃ j other, j ≤ id ∧ a.calls j = some other ∧ other.stableKey = call.stableKey ∧
      (a.tails.Ready j ∨ other.stage.phase = .running)
  once : ∀ id call, a.calls id = some call → call.starts ≤ 1
  runs : ∀ id call result, a.calls id = some call → call.stage = .settled result →
    call.starts = if call.refused then 0 else 1
  owed : ∀ id call result, a.calls id = some call → call.stage = .settled result →
    call.owed = some result
  released : ∀ id call, a.calls id = some call → call.releases ≤ if call.leased then 1 else 0
  givenBack : ∀ id call result, a.calls id = some call → call.stage = .settled result →
    call.releases = if call.leased then 1 else 0
  cleared : ∀ stableKey, (∀ id call, a.calls id = some call → call.stableKey = stableKey →
    call.cleanedUp) → a.tails.tails stableKey = none

theorem Stage.phase_queued {stage : Stage ε α} : stage.phase = .queued ↔ stage = .queued := by
  cases stage <;> simp [Stage.phase]

theorem Stage.phase_settled {stage : Stage ε α} :
    stage.phase = .settled ↔ ∃ result, stage = .settled result := by
  cases stage <;> simp [Stage.phase]

namespace Call.Kept

variable {call : Call ε α}

theorem once (kept : call.Kept) : call.starts ≤ 1 := by
  unfold Call.Kept at kept
  split at kept <;> grind

variable {result : Except ε α}

theorem runs (kept : call.Kept) (settled : call.stage = .settled result) :
    call.starts = if call.refused then 0 else 1 := by
  simp only [Call.Kept, settled] at kept
  obtain ⟨e, refused, starts, -⟩ | ⟨outcome, starts, -, ⟨leased, -⟩ | ⟨leased, -⟩⟩ := kept
  · simp [Call.refused, refused, starts]
  · simp [Call.refused, leased, starts]
  · simp [Call.refused, leased, starts]

theorem owed (kept : call.Kept) (settled : call.stage = .settled result) :
    call.owed = some result := by
  simp only [Call.Kept, settled] at kept
  obtain ⟨e, refused, -, -, -, rfl⟩ | ⟨outcome, -, ended, ⟨leased, -, released, rfl⟩ |
    ⟨leased, -, ⟨released, rfl⟩ | ⟨e, released, rfl⟩⟩⟩ := kept
  · simp [Call.owed, refused]
  · simp [Call.owed, leased, released, ended]
  · simp [Call.owed, leased, released, ended]
  · simp [Call.owed, leased, released]

theorem released (kept : call.Kept) : call.releases ≤ if call.leased then 1 else 0 := by
  unfold Call.Kept at kept
  split at kept <;> grind [Call.leased]

theorem givenBack (kept : call.Kept) (settled : call.stage = .settled result) :
    call.releases = if call.leased then 1 else 0 := by
  simp only [Call.Kept, settled] at kept
  obtain ⟨e, refused, -, releases, -⟩ | ⟨outcome, -, -, ⟨leased, releases, -⟩ |
    ⟨leased, releases, -⟩⟩ := kept
  · simp [Call.leased, refused, releases]
  · simp [Call.leased, leased, releases]
  · simp [Call.leased, leased, releases]

end Call.Kept

theorem Linked.waits {a : ModemActor ε α} (linked : Linked a) {id : Nat} {call : Call ε α}
    (isCall : a.calls id = some call) (queued : call.stage = .queued) : a.tails.Ready id ↔
      ∀ j other, a.calls j = some other → other.stableKey = call.stableKey → j < id →
        ∃ result, other.stage = .settled result := by
  obtain ⟨prior, isJob⟩ := linked.inPhase isCall
  rw [linked.chain.ready_iff isJob (Stage.phase_queued.mpr queued)]
  constructor
  · intro before j other isOther same lt
    obtain ⟨prior', isOther'⟩ := linked.inPhase isOther
    exact Stage.phase_settled.mp (before j _ isOther' same lt)
  · intro before j job isJob' same lt
    obtain ⟨other, isOther, sameKey, phase⟩ := linked.call_of_job isJob'
    rw [← phase]
    exact Stage.phase_settled.mpr (before j other isOther (sameKey.trans same) lt)

/-- The earliest call of a key that has not settled is ready or under way. -/
theorem Linked.goesOn {a : ModemActor ε α} (linked : Linked a) (id : Nat) {call : Call ε α}
    (isCall : a.calls id = some call) (unsettled : ∀ result, call.stage ≠ .settled result) :
    ∃ j other, j ≤ id ∧ a.calls j = some other ∧ other.stableKey = call.stableKey ∧
      (a.tails.Ready j ∨ other.stage.phase = .running) := by
  induction id using Nat.strongRecOn generalizing call with
  | ind id ih =>
    cases phase : call.stage.phase with
    | settled =>
      obtain ⟨result, settled⟩ := Stage.phase_settled.mp phase
      exact absurd settled (unsettled result)
    | running => exact ⟨id, call, Nat.le_refl id, isCall, rfl, .inr phase⟩
    | queued =>
      by_cases ready : a.tails.Ready id
      · exact ⟨id, call, Nat.le_refl id, isCall, rfl, .inl ready⟩
      · rw [linked.waits isCall (Stage.phase_queued.mp phase)] at ready
        push Not at ready
        obtain ⟨j, other, isOther, same, lt, unsettled'⟩ := ready
        obtain ⟨k, first, le, isFirst, sameKey, due⟩ := ih j lt isOther unsettled'
        exact ⟨k, first, Nat.le_trans le (Nat.le_of_lt lt), isFirst, sameKey.trans same, due⟩

theorem Linked.serialized {a : ModemActor ε α} (linked : Linked a) : Serialized a := by
  constructor
  · intro i j call call' isI isJ same lt begun
    have phase := linked.inPhase isJ
    rw [← same] at phase
    exact Stage.phase_settled.mp (linked.chain.fifo (linked.inPhase isI) phase
      (fun queued => begun (Stage.phase_queued.mp queued)) lt)
  · intro id call isCall queued
    exact linked.waits isCall queued
  · intro id call isCall unsettled
    exact linked.goesOn id isCall unsettled
  · intro id call isCall
    exact (linked.kept id call isCall).once
  · intro id call result isCall settled
    exact (linked.kept id call isCall).runs settled
  · intro id call result isCall settled
    exact (linked.kept id call isCall).owed settled
  · intro id call isCall
    exact (linked.kept id call isCall).released
  · intro id call result isCall settled
    exact (linked.kept id call isCall).givenBack settled
  · intro stableKey cleaned
    cases isTail : a.tails.tails stableKey with
    | none => rfl
    | some t =>
      obtain ⟨call, isCall, pending⟩ := linked.tail stableKey t isTail
      obtain ⟨job, isJob, isKey⟩ := linked.chain.tail_key stableKey t isTail
      obtain ⟨call', isCall', sameKey, -⟩ := linked.call_of_job isJob
      cases isCall.symm.trans isCall'
      have cleanedUp := cleaned t call isCall (sameKey.trans isKey)
      rw [pending] at cleanedUp
      exact absurd cleanedUp Bool.false_ne_true

/-- Whatever is called and however acquisitions, tasks and releases end: the calls of a key take
their turns in the order of submission, one at a time, and wait for nothing else. -/
theorem serialized_run (events : List (Event ε α)) : Serialized (ModemActor.run events) :=
  (Linked.run events).serialized

/-- Every task runs once, its caller receives its outcome, and the table has no entry when all
calls have settled. -/
structure SettlesAll (a : ModemActor ε α) : Prop where
  runs : ∀ id call result, a.calls id = some call → call.stage = .settled result → call.starts = 1
  owed : ∀ id call result, a.calls id = some call → call.stage = .settled result →
    call.outcome = some result
  cleared : (∀ id call, a.calls id = some call → ∃ result, call.stage = .settled result) →
    ∀ stableKey, a.tails.tails stableKey = none

/-- An acquisition rejects, a release rejects, and an entry outlives the last call. -/
theorem settlesAll_fails :
    ¬ SettlesAll (ModemActor.run (α := Unit)
      [.runQuiesced (js "slot:a"), .resume 0 .priorSettled,
        .resume 0 (.acquired (.error (js "nm")))]) ∧
    ¬ SettlesAll (ModemActor.run (α := Unit)
      [.runQuiesced (js "slot:a"), .resume 0 .priorSettled, .resume 0 (.acquired (.ok ())),
        .resume 0 (.task (.ok ())), .resume 0 (.released (.error (js "nm")))]) ∧
    ¬ SettlesAll (ModemActor.run (ε := JsString) (α := Unit)
      [.run (js "slot:a"), .resume 0 .priorSettled, .resume 0 (.task (.ok ()))]) := by
  refine ⟨fun settles => ?_, fun settles => ?_, fun settles => ?_⟩
  · exact absurd (settles.runs 0 _ _ rfl rfl) nofun
  · exact absurd (settles.owed 0 _ _ rfl rfl) nofun
  · refine absurd (settles.cleared ?_ (js "slot:a")) nofun
    intro id call isCall
    match id with
    | 0 => cases isCall; exact ⟨_, rfl⟩
    | id + 1 => cases isCall

end ModemActor

end ModemStack.Backend
