import ModemStack.Operations.Gate
import ModemStack.Operations.Stages

/-!
The generation at `execute`.

An invocation reads its modem's generation when it begins and calls `execute` three awaits later
with the generation it read. In runs in which no re-enumeration falls between, a mutation reaches
the device it was checked against (`execute_fenced`); `execute_fenced_fails` is a run in which one
does.
-/

namespace ModemStack.Operations

open ModemStack.Async ModemStack.Domain Program

variable {I O : Type}

/-- The call has called `execute` with `context`, the shared state then being `s`. -/
def Thread.ExecutesWith (thread : Thread I O) (context : OperationAttemptContext) (s : EngineState) :
    Prop :=
  thread.task.pending = some (.execute context) ∧ thread.since = s ∨
    ∃ event ∈ thread.history, event.op = .execute context ∧ event.called = s

/-- When a hook that comes before `execute` answers a mutation, its modem still has the generation in
which the mutation began. -/
def Steady (m : Machine I O) (action : Action) : Prop :=
  ∀ id thread modem hook, action = .turn id → m.threads id = some thread → thread.Mutates modem →
    thread.task.pending = some hook → hook.BeforeExecute →
      m.engine.currentGeneration modem = thread.begun.currentGeneration modem

/-- The hooks before a mutation's `execute` have all answered in the generation it began in. -/
def Thread.KeptGeneration (thread : Thread I O) : Prop :=
  ∀ modem, thread.Mutates modem → ∀ event ∈ thread.history, event.op.BeforeExecute →
    event.resumed.currentGeneration modem = thread.begun.currentGeneration modem

/-! ### One call -/

/-- What was called when an event's operation was. -/
theorem called_mem {Call : History I O → Hook I O → EngineState → Prop} {history : History I O}
    (called : Called Call history) {event : EngineEvent I O} (mem : event ∈ history) :
    ∃ earlier, earlier ⊆ history ∧ Call earlier event.op event.called := by
  induction history with
  | nil => cases mem
  | cons last rest ih =>
    rcases List.mem_cons.mp mem with rfl | mem
    · exact ⟨rest, List.subset_cons_self _ _, called.1⟩
    · obtain ⟨earlier, sub, call⟩ := ih called.2 mem
      exact ⟨earlier, List.subset_cons_of_subset _ sub, call⟩

variable [OperationInput I] {m m' : Machine I O} {thread : Thread I O}

/-- A call of an invocation comes at its stage, and meets the laws of the gate. -/
def StagedCall (execution : OperationExecution I O) (begun : EngineState) (history : History I O)
    (hook : Hook I O) (s : EngineState) : Prop :=
  InvocationCall execution begun history hook s ∧ Follows execution begun history hook s

theorem invoke_staged {execution : OperationExecution I O} {begun : EngineState} :
    (Request.invoke execution).task.Always (StagedCall execution begun) (fun _ _ _ => True)
      begun [] := by
  rw [Request.task, always_monad_bind]
  refine (invokeNow_always.and (invokeNow_follows execution begun)).mono (fun _ _ _ => id)
    fun history outcome s _ => ?_
  cases outcome <;> trivial

/-- A mutation that was called to `execute` in the turn in which its last hook answered. -/
theorem StagedCall.execute {execution : OperationExecution I O} {begun s : EngineState}
    {earlier : History I O} {context : OperationAttemptContext}
    (call : StagedCall execution begun earlier (.execute context) s)
    (isWrite : execution.descriptor.kind = .write)
    (kept : ∀ event ∈ earlier, event.op.BeforeExecute →
      event.resumed.currentGeneration execution.physicalModemId =
        begun.currentGeneration execution.physicalModemId) :
    context.generation = s.currentGeneration execution.physicalModemId := by
  obtain ⟨unchanged, before⟩ := call.1.before isWrite trivial
  rw [Stage.next_execute call.2, unchanged]
  cases earlier with
  | nil => rfl
  | cons last rest =>
    exact (kept last List.mem_cons_self (before.hooks last List.mem_cons_self)).symm

theorem Thread.KeptGeneration.executes {modem : PhysicalModemId} {context : OperationAttemptContext}
    {s : EngineState} (kept : thread.KeptGeneration) (reached : thread.Reached)
    (mutates : thread.Mutates modem) (executes : thread.ExecutesWith context s) :
    context.generation = s.currentGeneration modem := by
  have kept := kept modem mutates
  obtain ⟨execution, isRequest, isWrite, rfl⟩ := mutates
  unfold Thread.Reached at reached
  rw [isRequest] at reached
  rcases executes with ⟨waits, rfl⟩ | ⟨event, mem, isExecute, rfl⟩
  · exact ((reached.always invoke_staged).pending waits).execute isWrite kept
  · obtain ⟨earlier, sub, call⟩ := called_mem (reached.called invoke_staged) mem
    rw [isExecute] at call
    exact call.execute isWrite fun event mem => kept event (sub mem)

/-! ### Runs -/

/-- A step keeps what every call has kept. -/
theorem Steady.step {action : Action} (steady : Steady m action) (wf : m.Wf)
    (step : Step m action m')
    (kept : ∀ id thread, m.threads id = some thread → thread.KeptGeneration) :
    ∀ id thread, m'.threads id = some thread → thread.KeptGeneration := by
  intro id thread here
  cases action with
  | other => exact kept id thread (step.other.1 ▸ here)
  | turn actor =>
    obtain ⟨acting, turn⟩ := step.turn wf
    by_cases self : id = actor
    · subst self
      obtain rfl := Option.some.inj (turn.threads_self.symm.trans here)
      intro modem mutates event mem before
      obtain ⟨nil, -⟩ | ⟨past, last, isPast, sameRequest, sameBegun, isLast, -, waits⟩ := turn.past
      · simp [nil] at mem
      · have mutates : past.Mutates modem := by
          unfold Thread.Mutates at mutates ⊢
          rwa [← sameRequest]
        rw [sameBegun]
        rw [isLast] at mem
        rcases List.mem_cons.mp mem with rfl | mem
        · have resumed : event.resumed = m.engine := by
            rw [← turn.turn, isLast]
            rfl
          rw [resumed]
          exact steady id past modem event.op rfl isPast mutates waits before
        · exact kept id past isPast modem mutates event mem before
    · rw [turn.threads_other self] at here
      exact kept id thread here

theorem Run.keptGeneration {generations : PhysicalModemId → DeviceGeneration}
    (run : Run Steady (.init generations) m) :
    m.Wf ∧ ∀ id thread, m.threads id = some thread → thread.KeptGeneration := by
  induction run with
  | refl => exact ⟨Machine.wf_init, by rintro id thread ⟨⟩⟩
  | tail _ last ih =>
    obtain ⟨action, step, steady⟩ := last
    exact ⟨ih.1.step step, steady.step ih.1 step ih.2⟩

/-- In every run in which a mutation's hooks before `execute` answer in the generation it began in,
`execute` is called with the generation that its modem then has. -/
theorem execute_fenced {generations : PhysicalModemId → DeviceGeneration}
    (run : Run Steady (.init generations) m) (id : Nat) (here : m.threads id = some thread)
    {modem : PhysicalModemId} (mutates : thread.Mutates modem) {context : OperationAttemptContext}
    {s : EngineState} (executes : thread.ExecutesWith context s) :
    context.generation = s.currentGeneration modem := by
  obtain ⟨wf, kept⟩ := run.keptGeneration
  exact (kept id thread here).executes (wf.reached id thread here) mutates executes

omit [OperationInput I] in
theorem steady_of_same {id : Nat} (here : m.threads id = some thread)
    (same : m.engine.currentGeneration = thread.begun.currentGeneration) : Steady m (.turn id) := by
  rintro _ acting modem hook ⟨rfl⟩ isActing - - -
  obtain rfl := Option.some.inj (here.symm.trans isActing)
  rw [same]

omit [OperationInput I] in
theorem steady_of_new {id : Nat} (new : m.threads id = none) : Steady m (.turn id) := by
  rintro _ acting modem hook ⟨rfl⟩ isActing
  simp [new] at isActing

omit [OperationInput I] in
theorem steady_other : Steady m .other := by
  rintro id acting modem hook ⟨⟩

/-- A write runs up to its `execute` in one generation. -/
theorem execute_fenced_write :
    ∃ (m : Machine Unit Unit) (thread : Thread Unit Unit) (context : OperationAttemptContext)
      (s : EngineState), Run Steady (.init fun _ => 0) m ∧ m.threads 0 = some thread ∧
        thread.ExecutesWith context s ∧ context.generation = s.currentGeneration plainModem := by
  have start : Run Steady (.init fun _ => 0 : Machine Unit Unit) (.init fun _ => 0) := .refl
  have begun := (start.next (.enqueue (.invoke (plainExecution .write)) rfl) steady_other).next
    (.start 0 _ rfl ⟨plainModem, none, rfl, nofun⟩) (steady_of_new rfl)
  have executed := ((begun.answer 0 (.check _) (.ok .satisfied) rfl rfl
    (steady_of_same rfl rfl)).answer 0 (.pause _) (.ok ()) rfl rfl
    (steady_of_same rfl rfl)).answer 0 (.pause _) (.ok ()) rfl rfl (steady_of_same rfl rfl)
  refine ⟨_, _, _, _, executed, rfl, .inl ⟨rfl, rfl⟩, ?_⟩
  exact execute_fenced executed 0 rfl ⟨_, rfl, rfl, rfl⟩ (.inl ⟨rfl, rfl⟩)

/-- A write begins; its modem re-enumerates while the preconditions are checked; they are met, and
the write is executed with the generation that is gone. -/
theorem execute_fenced_fails :
    ∃ (m : Machine Unit Unit) (thread : Thread Unit Unit) (context : OperationAttemptContext)
      (s : EngineState), Run (fun _ _ => True) (.init fun _ => 0) m ∧
        m.threads 0 = some thread ∧ thread.Mutates plainModem ∧ thread.ExecutesWith context s ∧
        context.generation ≠ s.currentGeneration plainModem := by
  have start : Run (fun _ _ => True) (.init fun _ => 0 : Machine Unit Unit) (.init fun _ => 0) :=
    .refl
  have begun := (start.next (.enqueue (.invoke (plainExecution .write)) rfl) trivial).next
    (.start 0 _ rfl ⟨plainModem, none, rfl, nofun⟩) trivial
  have replaced := begun.next (.regenerate fun _ => 1) trivial
  have executed := ((replaced.answer 0 (.check _) (.ok .satisfied) rfl rfl trivial).answer
    0 (.pause _) (.ok ()) rfl rfl trivial).answer 0 (.pause _) (.ok ()) rfl rfl trivial
  exact ⟨_, _, _, _, executed, rfl, ⟨_, rfl, rfl, rfl⟩, .inl ⟨rfl, rfl⟩, by decide⟩

end ModemStack.Operations
