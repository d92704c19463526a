import ModemStack.Async.SerialQueue
import ModemStack.Operations.EngineLaws

/-!
Runs of the engine: any number of calls in flight at once.

A mutation or a reconciliation is a job on its modem's queue and begins when the
job before it has settled; a read begins at once. Each call then advances from
await to await, in any order with the others, while generations change under it.
-/

namespace ModemStack.Operations

open ModemStack.Async ModemStack.Domain Program

inductive Request (I O : Type) where
  | invoke (execution : OperationExecution I O)
  | reconcile (execution : ReconciliationExecution)

inductive Reply (O : Type) where
  | invoked (result : OperationResult O)
  | reconciled (result : ReconciliationResult)

variable {I O : Type}

namespace Request

def modem : Request I O → PhysicalModemId
  | .invoke execution => execution.physicalModemId
  | .reconcile execution => execution.physicalModemId

/-- Everything but a read goes through the modem's queue. -/
def Queued : Request I O → Prop
  | .invoke execution => execution.descriptor.kind = .write
  | .reconcile _ => True

def task [OperationInput I] : Request I O → Task I O (Reply O)
  | .invoke execution => do
      let result ← invokeNow execution
      return .invoked result
  | .reconcile execution => do
      let result ← reconcileNow execution
      return .reconciled result

end Request

/-- A call that has begun: the shared state it began in, the answers it has
received, where it stands, and the shared state when it got there. -/
structure Thread (I O : Type) where
  request : Request I O
  begun : EngineState
  history : History I O
  task : Task I O (Reply O)
  since : EngineState

structure Machine (I O : Type) where
  engine : EngineState
  queue : SerialQueue PhysicalModemId
  requests : Nat → Option (Request I O)
  threads : Nat → Option (Thread I O)
  next : Nat

section Machine

variable [OperationInput I]

namespace Thread

def start (request : Request I O) (engine : EngineState) : Thread I O where
  request := request
  begun := engine
  history := []
  task := (request.task.advance engine).1
  since := (request.task.advance engine).2

/-- The thread resumed at `op`, whose continuation is `next`, with an answer. -/
def resume (thread : Thread I O) {op : Hook I O}
    (next : Except Rejection op.Answer → Task I O (Reply O)) (answer : Except Rejection op.Answer)
    (engine : EngineState) : Thread I O where
  request := thread.request
  begun := thread.begun
  history := ⟨op, answer, thread.since, engine⟩ :: thread.history
  task := ((next answer).advance engine).1
  since := ((next answer).advance engine).2

end Thread

namespace Machine

/-- An engine that has just been created. -/
def init (generations : PhysicalModemId → DeviceGeneration) : Machine I O where
  engine := ⟨generations, ∅⟩
  queue := .empty
  requests _ := none
  threads _ := none
  next := 0

/-- A thread has taken its turn: it stands somewhere new and leaves the shared
state as it has made it. -/
def put (m : Machine I O) (id : Nat) (thread : Thread I O) : Machine I O :=
  { m with threads := Function.update m.threads id (some thread), engine := thread.since }

/-- A call is made. -/
def submit (m : Machine I O) (request : Request I O) : Machine I O :=
  { m with
    requests := Function.update m.requests m.next (some request)
    next := m.next + 1 }

def setPhase (m : Machine I O) (id : Nat) (phase : Phase) : Machine I O :=
  { m with queue := m.queue.setPhase id phase }

end Machine

/-- Who acts in a step: a call takes its turn, or something else happens. -/
inductive Action where
  | turn (id : Nat)
  | other

/-- One step of the event loop. -/
inductive Step : Machine I O → Action → Machine I O → Prop where
  /-- A mutation or a reconciliation is queued. -/
  | enqueue {m : Machine I O} (request : Request I O) (queued : request.Queued) :
      Step m .other
        { m.submit request with queue := m.queue.enqueue m.next request.modem }
  /-- A read begins at once. -/
  | read {m : Machine I O} (request : Request I O) (direct : ¬ request.Queued) :
      Step m (.turn m.next)
        ((m.submit request).put m.next (Thread.start request m.engine))
  /-- A queued call begins. -/
  | start {m : Machine I O} (id : Nat) (request : Request I O)
      (submitted : m.requests id = some request) (ready : m.queue.Ready id) :
      Step m (.turn id)
        ((m.setPhase id .running).put id (Thread.start request m.engine))
  /-- An awaited operation answers. -/
  | resume {m : Machine I O} (id : Nat) (thread : Thread I O) {op : Hook I O}
      (next : Except Rejection op.Answer → Task I O (Reply O))
      (here : m.threads id = some thread) (waits : thread.task = .await op next)
      (answer : Except Rejection op.Answer) :
      Step m (.turn id) (m.put id (thread.resume next answer m.engine))
  /-- A queued call that has ended settles its job. -/
  | settle {m : Machine I O} (id : Nat) (thread : Thread I O)
      (here : m.threads id = some thread) (ended : thread.task.outcome.isSome)
      (running : m.queue.InPhase id thread.request.modem .running) :
      Step m .other (m.setPhase id .settled)
  /-- A queue whose last job has settled is dropped. -/
  | drop {m : Machine I O} (modem : PhysicalModemId)
      (settled : ∀ tail, m.queue.tails modem = some tail → m.queue.InPhase tail modem .settled) :
      Step m .other { m with queue := m.queue.drop modem }
  /-- Generations change. -/
  | regenerate {m : Machine I O} (generations : PhysicalModemId → DeviceGeneration) :
      Step m .other { m with engine := { m.engine with currentGeneration := generations } }

/-- The machine reaches `m'` from `m` by steps that all meet `Allowed`. -/
def Run (Allowed : Machine I O → Action → Prop) : Machine I O → Machine I O → Prop :=
  Relation.ReflTransGen fun m m' => ∃ action, Step m action m' ∧ Allowed m action

theorem Run.next {Allowed : Machine I O → Action → Prop} {m₀ m m' : Machine I O} {action : Action}
    (run : Run Allowed m₀ m) (step : Step m action m') (allowed : Allowed m action) :
    Run Allowed m₀ m' :=
  .tail run ⟨action, step, allowed⟩

variable {thread : Thread I O}

/-- Go on with the answer to the operation call `id` awaits. -/
theorem Run.answer {Allowed : Machine I O → Action → Prop} {m₀ m : Machine I O}
    (run : Run Allowed m₀ m) (id : Nat) (op : Hook I O) (answer : Except Rejection op.Answer)
    {next : Except Rejection op.Answer → Task I O (Reply O)} (here : m.threads id = some thread)
    (waits : thread.task = .await op next) (allowed : Allowed m (.turn id)) :
    Run Allowed m₀ (m.put id (thread.resume next answer m.engine)) :=
  run.next (.resume id thread next here waits answer) allowed

/-! ### What one step does -/

/-- Call `id` took its turn: it is new, or it received the answer it was waiting
for; it began its turn in the shared state as it was and left it as it is now. A
queued call takes its turns as the running job of its queue. -/
structure Turn (m : Machine I O) (id : Nat) (m' : Machine I O) (thread : Thread I O) : Prop where
  threads : m'.threads = Function.update m.threads id (some thread)
  engine : m'.engine = thread.since
  turn : turnStart thread.begun thread.history = m.engine
  running : thread.request.Queued → m'.queue.InPhase id thread.request.modem .running
  past : thread.history = [] ∧ m.threads id = none ∨
    ∃ before event, m.threads id = some before ∧ thread.request = before.request ∧
      thread.begun = before.begun ∧ thread.history = event :: before.history ∧
      event.called = before.since ∧ before.task.pending = some event.op

variable {id : Nat} {request : Request I O}

omit [OperationInput I] in
theorem Turn.threads_self {m m' : Machine I O} (turn : Turn m id m' thread) :
    m'.threads id = some thread := by
  rw [turn.threads, Function.update_self]

omit [OperationInput I] in
theorem Turn.threads_other {m m' : Machine I O} {id other : Nat} (turn : Turn m id m' thread)
    (ne : other ≠ id) : m'.threads other = m.threads other := by
  rw [turn.threads, Function.update_of_ne ne]

/-- Every begun call stands where its answers have taken it. -/
def Thread.Reached (thread : Thread I O) : Prop :=
  Reaches thread.request.task thread.begun thread.history thread.task thread.since

/-- The bookkeeping of calls and queues agrees. -/
structure Machine.Wf (m : Machine I O) : Prop where
  chain : m.queue.Chain
  freshJobs : m.queue.Fresh m.next
  freshThreads : ∀ id, m.next ≤ id → m.threads id = none
  jobs : ∀ id job, m.queue.jobs id = some job →
    ∃ request, m.requests id = some request ∧ request.Queued ∧ job.key = request.modem
  waiting : ∀ id key, m.queue.InPhase id key .queued → m.threads id = none
  requests : ∀ id thread, m.threads id = some thread → m.requests id = some thread.request
  running : ∀ id thread, m.threads id = some thread → thread.request.Queued →
    m.queue.InPhase id thread.request.modem .running ∨
      m.queue.InPhase id thread.request.modem .settled ∧ thread.task.outcome.isSome
  reached : ∀ id thread, m.threads id = some thread → thread.Reached

theorem Machine.wf_init {generations : PhysicalModemId → DeviceGeneration} :
    (Machine.init generations : Machine I O).Wf where
  chain := SerialQueue.chain_empty
  freshJobs _ _ := rfl
  freshThreads _ _ := rfl
  jobs := by rintro id job ⟨⟩
  waiting := by rintro id key ⟨prior, ⟨⟩⟩
  requests := by rintro id thread ⟨⟩
  running := by rintro id thread ⟨⟩
  reached := by rintro id thread ⟨⟩

theorem Thread.start_reached {engine : EngineState} :
    (Thread.start request engine).Reached := .start

theorem Thread.resume_reached {op : Hook I O}
    {next : Except Rejection op.Answer → Task I O (Reply O)} {answer : Except Rejection op.Answer}
    {engine : EngineState} (reached : thread.Reached) (waits : thread.task = .await op next) :
    (thread.resume next answer engine).Reached := by
  unfold Thread.Reached at reached
  rw [waits] at reached
  exact .resume reached answer engine

variable {m m' : Machine I O}

/-- What a step does when no call takes a turn. -/
theorem Step.other (step : Step m .other m') : m'.threads = m.threads ∧
    m'.engine.reconciliationRequired = m.engine.reconciliationRequired := by
  cases step <;> exact ⟨rfl, rfl⟩

theorem Machine.Wf.lt (wf : m.Wf) {id : Nat} {thread : Thread I O}
    (here : m.threads id = some thread) : id < m.next := by
  by_contra ge
  simp [wf.freshThreads id (not_lt.mp ge)] at here

theorem Machine.Wf.enqueue (wf : m.Wf) (queued : request.Queued) :
    Machine.Wf { m.submit request with queue := m.queue.enqueue m.next request.modem } where
  chain := wf.chain.enqueue wf.freshJobs
  freshJobs := SerialQueue.fresh_enqueue wf.freshJobs
  freshThreads id le := wf.freshThreads id (Nat.le_of_succ_le le)
  jobs id job isJob := by
    simp only [Machine.submit, Function.update_apply]
    obtain ⟨rfl, rfl⟩ | ⟨ne, old⟩ := SerialQueue.enqueue_cases isJob
    · exact ⟨request, if_pos rfl, queued, rfl⟩
    · rw [if_neg ne]
      exact wf.jobs id job old
  waiting id key inPhase := by
    rw [SerialQueue.inPhase_enqueue] at inPhase
    split at inPhase
    · next eq => exact wf.freshThreads id eq.ge
    · exact wf.waiting id key inPhase
  requests id thread here := by
    simp only [Machine.submit, Function.update_apply, if_neg (wf.lt here).ne]
    exact wf.requests id thread here
  running id thread here isQueued := by
    simp only [SerialQueue.inPhase_enqueue, if_neg (wf.lt here).ne]
    exact wf.running id thread here isQueued
  reached := wf.reached

theorem Machine.Wf.submit (wf : m.Wf) {request : Request I O} : (m.submit request).Wf where
  chain := wf.chain
  freshJobs := wf.freshJobs.mono (Nat.le_succ _)
  freshThreads id le := wf.freshThreads id (Nat.le_of_succ_le le)
  jobs id job isJob := by
    simp only [Machine.submit, Function.update_apply, if_neg (wf.freshJobs.lt isJob).ne]
    exact wf.jobs id job isJob
  waiting := wf.waiting
  requests id thread here := by
    simp only [Machine.submit, Function.update_apply, if_neg (wf.lt here).ne]
    exact wf.requests id thread here
  running := wf.running
  reached := wf.reached

/-- A call that belongs where it is put keeps the bookkeeping. -/
theorem Machine.Wf.put (wf : m.Wf) {id : Nat} {thread : Thread I O} (reached : thread.Reached)
    (lt : id < m.next) (submitted : m.requests id = some thread.request)
    (notWaiting : ∀ key, ¬ m.queue.InPhase id key .queued)
    (running : thread.request.Queued → m.queue.InPhase id thread.request.modem .running) :
    (m.put id thread).Wf where
  chain := wf.chain
  freshJobs := wf.freshJobs
  freshThreads i le := by
    simp only [Machine.put, Function.update_apply, if_neg (lt.trans_le le).ne']
    exact wf.freshThreads i le
  jobs := wf.jobs
  waiting i key inPhase := by
    simp only [Machine.put, Function.update_apply]
    split
    · next eq => exact absurd (eq ▸ inPhase) (notWaiting key)
    · exact wf.waiting i key inPhase
  requests i thread' here := by
    simp only [Machine.put, Function.update_apply] at here ⊢
    split at here
    · next eq => rw [eq, submitted, Option.some.inj here]
    · exact wf.requests i thread' here
  running i thread' here isQueued := by
    simp only [Machine.put, Function.update_apply] at here ⊢
    split at here
    · next eq =>
      obtain rfl := Option.some.inj here
      exact .inl (eq ▸ running isQueued)
    · exact wf.running i thread' here isQueued
  reached i thread' here := by
    simp only [Machine.put, Function.update_apply] at here
    split at here
    · exact Option.some.inj here ▸ reached
    · exact wf.reached i thread' here

theorem Machine.Wf.setPhase (wf : m.Wf) {id : Nat} {phase : Phase} (notQueued : phase ≠ .queued)
    (chain : (m.queue.setPhase id phase).Chain)
    (ended : ∀ thread, m.threads id = some thread → phase = .settled ∧
      thread.task.outcome.isSome) : (m.setPhase id phase).Wf where
  chain := chain
  freshJobs := SerialQueue.fresh_setPhase wf.freshJobs
  freshThreads := wf.freshThreads
  jobs i job isJob := by
    obtain ⟨old, isOld, key, -⟩ := SerialQueue.setPhase_cases isJob
    obtain ⟨request, submitted, queued, same⟩ := wf.jobs i old isOld
    exact ⟨request, submitted, queued, key.symm.trans same⟩
  waiting i key inPhase := by
    simp only [Machine.setPhase, SerialQueue.inPhase_setPhase] at inPhase
    split at inPhase
    · exact absurd inPhase.1.symm notQueued
    · exact wf.waiting i key inPhase
  requests := wf.requests
  running i thread here isQueued := by
    simp only [Machine.setPhase, SerialQueue.inPhase_setPhase]
    split
    · next eq =>
      subst eq
      obtain ⟨isSettled, isSome⟩ := ended thread here
      refine .inr ⟨⟨isSettled.symm, ?_⟩, isSome⟩
      rcases wf.running i thread here isQueued with inPhase | ⟨inPhase, -⟩ <;>
        exact ⟨_, inPhase⟩
    · exact wf.running i thread here isQueued
  reached := wf.reached

/-- A queued call that is ready belongs to the queue it is in, and is its running
job once started. -/
theorem Machine.Wf.start_running (wf : m.Wf) (submitted : m.requests id = some request)
    (ready : m.queue.Ready id) : m.threads id = none ∧ id < m.next ∧
      (m.setPhase id .running).queue.InPhase id request.modem .running := by
  obtain ⟨key, queued⟩ := ready.inPhase
  obtain ⟨job, isJob, rfl, -⟩ := queued.exists_job
  obtain ⟨request', submitted', -, same⟩ := wf.jobs id job isJob
  obtain rfl := Option.some.inj (submitted.symm.trans submitted')
  refine ⟨wf.waiting id _ queued, wf.freshJobs.lt isJob, ?_⟩
  simp only [Machine.setPhase, SerialQueue.inPhase_setPhase, ↓reduceIte, true_and]
  exact ⟨_, same ▸ queued⟩

/-- A queued call that waits for an answer is the running job of its queue. -/
theorem Machine.Wf.resume_running (wf : m.Wf) (here : m.threads id = some thread)
    (goes : thread.task.outcome = none) (queued : thread.request.Queued) :
    m.queue.InPhase id thread.request.modem .running :=
  (wf.running id thread here queued).resolve_right (by simp [goes])

/-- What a step does, for a call that takes its turn. -/
theorem Step.turn (step : Step m (.turn id) m') (wf : m.Wf) : ∃ thread, Turn m id m' thread := by
  cases step with
  | read request direct =>
    exact ⟨_, rfl, rfl, rfl, fun queued => absurd queued direct,
      .inl ⟨rfl, wf.freshThreads _ le_rfl⟩⟩
  | start _ request submitted ready =>
    obtain ⟨new, -, running⟩ := wf.start_running submitted ready
    exact ⟨_, rfl, rfl, rfl, fun _ => running, .inl ⟨rfl, new⟩⟩
  | resume _ thread next here waits answer =>
    have running := wf.resume_running here (by rw [waits]; rfl)
    refine ⟨_, rfl, rfl, rfl, running,
      .inr ⟨thread, _, here, rfl, rfl, rfl, rfl, ?_⟩⟩
    rw [waits]
    rfl

theorem Machine.Wf.step {action : Action} (wf : m.Wf) (step : Step m action m') : m'.Wf := by
  cases step with
  | enqueue request queued => exact wf.enqueue queued
  | read request direct =>
    refine wf.submit.put Thread.start_reached (Nat.lt_succ_self _)
      (by simp [Machine.submit, Thread.start]) ?_ fun queued => absurd queued direct
    rintro key ⟨prior, isJob⟩
    exact absurd (wf.freshJobs.lt isJob) (lt_irrefl _)
  | start id request submitted ready =>
    obtain ⟨new, lt, running⟩ := wf.start_running submitted ready
    have started : (m.setPhase id .running).Wf := by
      refine wf.setPhase (by simp) (wf.chain.start ready) fun thread here => ?_
      simp [new] at here
    refine started.put Thread.start_reached lt submitted (fun key waiting => ?_)
      fun _ => running
    exact absurd (running.phase_eq waiting) (by simp)
  | resume id thread next here waits answer =>
    have running := wf.resume_running here (by rw [waits]; rfl)
    refine wf.put (Thread.resume_reached (wf.reached id thread here) waits) (wf.lt here)
      (wf.requests id thread here) (fun key waiting => ?_) running
    simp [wf.waiting id key waiting] at here
  | settle id thread here ended running =>
    refine wf.setPhase (by simp) (wf.chain.settle running) fun thread' here' => ⟨rfl, ?_⟩
    rwa [Option.some.inj (here'.symm.trans here)]
  | drop modem settled =>
    exact
      { wf with
        chain := wf.chain.drop settled
        freshJobs := wf.freshJobs
        jobs := wf.jobs
        waiting := wf.waiting
        running := wf.running }
  | regenerate =>
    exact
      { wf with
        chain := wf.chain
        freshJobs := wf.freshJobs }

/-- While one queued call of a modem takes a turn, no other one has begun and not
ended. -/
theorem Turn.exclusive (turn : Turn m id m' thread) (wf' : m'.Wf) (queued : thread.request.Queued)
    {other : Nat} {key : PhysicalModemId} (running : m'.queue.InPhase other key .running)
    (same : thread.request.modem = key) : other = id :=
  wf'.chain.exclusive running (same ▸ turn.running queued)

end Machine

end ModemStack.Operations
