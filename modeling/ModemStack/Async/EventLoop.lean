import ModemStack.Async.Drive

/-!
Many async functions on one event loop.

Tasks share a state. A turn of the loop calls a new task or answers what a task
awaits, and runs that task to its next await. Each task is verified by itself: it
`Meets` a contract that says what it relies on and what its turns guarantee. Where
what every task guarantees is what all others rely on (`Discipline.Lawful`), each run
of the loop keeps the contracts of all of them (`Kept.run`).
-/

namespace ModemStack.Async

variable {σ κ Op : Type} {Ans : Op → Type} {ε α β : Type}

/-- The shared state, and the tasks in the order of their calls: what each was called
with and where it stands. -/
structure EventLoop (σ κ Op : Type) (Ans : Op → Type) (ε α : Type) where
  shared : σ
  tasks : List (κ × Program σ Op Ans ε α)

inductive Turn (κ Op : Type) (Ans : Op → Type) (ε : Type) where
  | start (call : κ)
  | resume (task : Nat) (answer : (op : Op) → Except ε (Ans op))

namespace EventLoop

/-- The operation a task awaits. -/
def pending (loop : EventLoop σ κ Op Ans ε α) (task : Nat) : Option Op :=
  loop.tasks[task]?.bind fun entry => entry.2.pending

/-- What a task has settled with. -/
def outcome (loop : EventLoop σ κ Op Ans ε α) (task : Nat) : Option (Except ε α) :=
  loop.tasks[task]?.bind fun entry => entry.2.outcome

section Turns

-- what the task with a given number and call runs
variable (body : Nat → κ → Program σ Op Ans ε α)

/-- Answering a task that awaits nothing changes nothing. -/
def turn (loop : EventLoop σ κ Op Ans ε α) : Turn κ Op Ans ε → EventLoop σ κ Op Ans ε α
  | .start call =>
    let begun := (body loop.tasks.length call).advance loop.shared
    ⟨begun.2, loop.tasks ++ [(call, begun.1)]⟩
  | .resume task answer =>
    match loop.tasks[task]? with
    | some (call, .await op next) =>
      let resumed := (next (answer op)).advance loop.shared
      ⟨resumed.2, loop.tasks.set task (call, resumed.1)⟩
    | _ => loop

def run (loop : EventLoop σ κ Op Ans ε α) (turns : List (Turn κ Op Ans ε)) :
    EventLoop σ κ Op Ans ε α :=
  turns.foldl (turn body) loop

/-- Every turn is allowed where it is taken. -/
def Allows (Allowed : EventLoop σ κ Op Ans ε α → Turn κ Op Ans ε → Prop) :
    EventLoop σ κ Op Ans ε α → List (Turn κ Op Ans ε) → Prop
  | _, [] => True
  | loop, first :: turns => Allowed loop first ∧ Allows Allowed (loop.turn body first) turns

instance decidableAllows {Allowed : EventLoop σ κ Op Ans ε α → Turn κ Op Ans ε → Prop}
    [∀ loop turn, Decidable (Allowed loop turn)] (loop : EventLoop σ κ Op Ans ε α) :
    (turns : List (Turn κ Op Ans ε)) → Decidable (Allows body Allowed loop turns)
  | [] => inferInstanceAs (Decidable True)
  | first :: turns =>
    have : Decidable (Allows body Allowed (turn body loop first) turns) :=
      decidableAllows (turn body loop first) turns
    inferInstanceAs (Decidable (Allowed loop first ∧
      Allows body Allowed (turn body loop first) turns))

variable {body} {loop : EventLoop σ κ Op Ans ε α}

variable {turns : List (Turn κ Op Ans ε)}
  {Allowed : EventLoop σ κ Op Ans ε α → Turn κ Op Ans ε → Prop} {task : Nat}

theorem Allows.mono {Allowed Allowed' : EventLoop σ κ Op Ans ε α → Turn κ Op Ans ε → Prop}
    (weaker : ∀ loop turn, Allowed loop turn → Allowed' loop turn)
    (allows : Allows body Allowed loop turns) : Allows body Allowed' loop turns := by
  induction turns generalizing loop with
  | nil => trivial
  | cons first turns ih => exact ⟨weaker _ _ allows.1, ih allows.2⟩

theorem allows_of_forall (allowed : ∀ first ∈ turns, ∀ loop, Allowed loop first) :
    Allows body Allowed loop turns := by
  induction turns generalizing loop with
  | nil => trivial
  | cons first turns ih =>
    exact ⟨allowed first List.mem_cons_self loop,
      ih fun turn mem => allowed turn (List.mem_cons_of_mem first mem)⟩

/-- A property every allowed turn keeps holds after an allowed run. -/
theorem run_induction {P : EventLoop σ κ Op Ans ε α → Prop}
    (keeps : ∀ {loop first}, P loop → Allowed loop first → P (loop.turn body first))
    (holds : P loop) (allows : Allows body Allowed loop turns) : P (loop.run body turns) := by
  induction turns generalizing loop with
  | nil => exact holds
  | cons first turns ih => exact ih (keeps holds allows.1) allows.2

/-- Turns that cannot be taken where they stand are left out. -/
def guardedRun (body : Nat → κ → Program σ Op Ans ε α)
    (Allowed : EventLoop σ κ Op Ans ε α → Turn κ Op Ans ε → Prop)
    [∀ loop turn, Decidable (Allowed loop turn)] (loop : EventLoop σ κ Op Ans ε α)
    (turns : List (Turn κ Op Ans ε)) : EventLoop σ κ Op Ans ε α :=
  turns.foldl (fun loop first => if Allowed loop first then loop.turn body first else loop) loop

/-- What is left is an allowed run. -/
theorem exists_allows_guardedRun (Allowed : EventLoop σ κ Op Ans ε α → Turn κ Op Ans ε → Prop)
    [∀ loop turn, Decidable (Allowed loop turn)] (loop : EventLoop σ κ Op Ans ε α)
    (turns : List (Turn κ Op Ans ε)) : ∃ taken, Allows body Allowed loop taken ∧
      loop.guardedRun body Allowed turns = loop.run body taken := by
  induction turns generalizing loop with
  | nil => exact ⟨[], trivial, rfl⟩
  | cons first turns ih =>
    rw [guardedRun, List.foldl_cons]
    by_cases allowed : Allowed loop first
    · rw [if_pos allowed]
      obtain ⟨taken, allows, same⟩ := ih (loop.turn body first)
      exact ⟨first :: taken, ⟨allowed, allows⟩, same⟩
    · rw [if_neg allowed]
      exact ih loop

theorem resume_awaiting {answer : (op : Op) → Except ε (Ans op)} {call : κ} {op : Op}
    {next : Except ε (Ans op) → Program σ Op Ans ε α}
    (awaits : loop.tasks[task]? = some (call, .await op next)) :
    loop.turn body (.resume task answer) =
      ⟨((next (answer op)).advance loop.shared).2,
        loop.tasks.set task (call, ((next (answer op)).advance loop.shared).1)⟩ := by
  rw [turn, awaits]

theorem resume_idle {answer : (op : Op) → Except ε (Ans op)} (idle : loop.pending task = none) :
    loop.turn body (.resume task answer) = loop := by
  rw [turn]
  split
  · next awaits => rw [pending, awaits] at idle; cases idle
  · rfl

/-- The two ways an answer is taken. -/
theorem resume_cases (loop : EventLoop σ κ Op Ans ε α) (task : Nat) :
    (∃ call op next, loop.tasks[task]? = some (call, .await op next)) ∨
      loop.pending task = none := by
  cases found : loop.tasks[task]? with
  | none => exact .inr (by rw [pending, found]; rfl)
  | some entry =>
    obtain ⟨call, p⟩ := entry
    cases p with
    | await op next => exact .inl ⟨call, op, next, rfl⟩
    | _ => exact .inr (by rw [pending, found]; rfl)

theorem tasks_turn_length (loop : EventLoop σ κ Op Ans ε α) (turn : Turn κ Op Ans ε) :
    loop.tasks.length ≤ (loop.turn body turn).tasks.length := by
  cases turn with
  | start => simp [EventLoop.turn]
  | resume task answer =>
    rcases loop.resume_cases task with ⟨call, op, next, awaits⟩ | idle
    · rw [resume_awaiting awaits]
      exact Nat.le_of_eq List.length_set.symm
    · exact Nat.le_of_eq (congrArg (fun l => l.tasks.length) (resume_idle idle).symm)

theorem outcome_eq_some {outcome : Except ε α} :
    loop.outcome task = some outcome ↔ ∃ call p, loop.tasks[task]? = some (call, p) ∧
      p.outcome = some outcome := by
  rw [EventLoop.outcome, Option.bind_eq_some_iff, Prod.exists]

/-- A task that has settled takes no part in a turn. -/
theorem tasks_turn_settled {call : κ} {p : Program σ Op Ans ε α}
    (stands : loop.tasks[task]? = some (call, p)) (settled : p.pending = none)
    (turn : Turn κ Op Ans ε) : (loop.turn body turn).tasks[task]? = some (call, p) := by
  cases turn with
  | start =>
    obtain ⟨lt, -⟩ := List.getElem?_eq_some_iff.mp stands
    rw [EventLoop.turn, List.getElem?_append_left lt, stands]
  | resume other answer =>
    rcases loop.resume_cases other with ⟨call', op, next, awaits⟩ | idle
    · have ne : other ≠ task := by
        rintro rfl
        cases stands.symm.trans awaits
        cases settled
      rw [resume_awaiting awaits, List.getElem?_set_ne ne, stands]
    · rw [resume_idle idle, stands]

theorem outcome_turn {outcome : Except ε α} (settled : loop.outcome task = some outcome)
    (turn : Turn κ Op Ans ε) : (loop.turn body turn).outcome task = some outcome := by
  obtain ⟨call, p, stands, ended⟩ := outcome_eq_some.mp settled
  refine outcome_eq_some.mpr ⟨call, p, tasks_turn_settled stands ?_ turn, ended⟩
  cases p <;> first | rfl | cases ended

theorem pending_of_outcome {outcome : Except ε α} (settled : loop.outcome task = some outcome) :
    loop.pending task = none := by
  obtain ⟨call, p, stands, ended⟩ := outcome_eq_some.mp settled
  rw [pending, stands]
  cases p <;> first | rfl | cases ended

end Turns

/-- The tasks from `first` on make no calls but those that meet `Call`. -/
def CallsFrom (Call : Op → Prop) (first : Nat) (loop : EventLoop σ κ Op Ans ε α) : Prop :=
  ∀ i call (p : Program σ Op Ans ε α), first ≤ i → loop.tasks[i]? = some (call, p) → p.Calls Call

section CallsFrom

variable {body : Nat → κ → Program σ Op Ans ε α} {loop : EventLoop σ κ Op Ans ε α}
  {Call : Op → Prop} {first : Nat}

theorem callsFrom_length : loop.CallsFrom Call loop.tasks.length := by
  intro i call p le found
  obtain ⟨lt, -⟩ := List.getElem?_eq_some_iff.mp found
  omega

theorem CallsFrom.start (calls : loop.CallsFrom Call first) {call : κ}
    (begins : ((body loop.tasks.length call).advance loop.shared).1.Calls Call) :
    (loop.turn body (.start call)).CallsFrom Call first := by
  intro i other p le found
  obtain ⟨lt, -⟩ := List.getElem?_eq_some_iff.mp found
  rw [turn, List.length_append, List.length_singleton] at lt
  rw [turn] at found
  by_cases old : i < loop.tasks.length
  · rw [List.getElem?_append_left old] at found
    exact calls i other p le found
  · obtain rfl : i = loop.tasks.length := by omega
    rw [List.getElem?_append_right (Nat.le_refl _), Nat.sub_self] at found
    cases found
    exact begins

theorem CallsFrom.resume (calls : loop.CallsFrom Call first) (task : Nat)
    (answer : (op : Op) → Except ε (Ans op)) :
    (loop.turn body (.resume task answer)).CallsFrom Call first := by
  rcases loop.resume_cases task with ⟨call, op, next, awaits⟩ | idle
  · rw [resume_awaiting awaits]
    intro i other p le found
    obtain ⟨lt, -⟩ := List.getElem?_eq_some_iff.mp awaits
    by_cases same : task = i
    · subst same
      rw [List.getElem?_set_self lt] at found
      cases found
      exact ((calls task call _ le awaits).2 (answer op)).advance
    · rw [List.getElem?_set_ne same] at found
      exact calls i other p le found
  · rw [resume_idle idle]
    exact calls

theorem CallsFrom.pending (calls : loop.CallsFrom Call first) {task : Nat} {op : Op}
    (le : first ≤ task) (pending : loop.pending task = some op) : Call op := by
  obtain ⟨⟨call, p⟩, found, waits⟩ := Option.bind_eq_some_iff.mp pending
  have meets := calls task call p le found
  cases p with
  | await => cases waits; exact meets.1
  | _ => cases waits

end CallsFrom

end EventLoop

/-! ### Contracts -/

/-- What a task relies on between its turns, what each of its turns guarantees, which
answers it may be given and which operations it may await. -/
structure Contract (σ Op : Type) (Ans : Op → Type) (ε : Type) where
  rely : σ → σ → Prop
  guarantee : σ → σ → Prop
  fair : σ → (op : Op) → Except ε (Ans op) → Prop
  call : Op → σ → Prop

/-- A turn begun in one state ends in another, and `P` holds from there on. -/
structure Contract.Rests (Inv : σ → Prop) (c : Contract σ Op Ans ε) (begun s : σ)
    (P : σ → Prop) : Prop where
  invariant : Inv s
  guarantee : c.guarantee begun s
  later : ∀ now, c.rely s now → Inv now → P now

/-- What a contract asks of the operations of the left side. -/
def Contract.left {Op' : Type} {Ans' : Op' → Type}
    (c : Contract σ (Op ⊕ Op') (Sum.elim Ans Ans') ε) : Contract σ Op Ans ε where
  rely := c.rely
  guarantee := c.guarantee
  fair s op answer := c.fair s (.inl op) answer
  call op s := c.call (.inl op) s

/-- Nothing is asked but that the answers be fair. -/
def Contract.ofFair (fair : σ → (op : Op) → Except ε (Ans op) → Prop) : Contract σ Op Ans ε where
  rely _ _ := True
  guarantee _ _ := True
  fair := fair
  call _ _ := True

/-- Each task has a part of the state to itself: it finds it as it left it, and leaves those of
the others alone. -/
def Contract.owned {τ : Type} (own : Nat → σ → τ) (task : Nat)
    (fair : σ → (op : Op) → Except ε (Ans op) → Prop) (call : Op → σ → Prop) :
    Contract σ Op Ans ε where
  rely s s' := own task s' = own task s
  guarantee s s' := ∀ other, other ≠ task → own other s' = own other s
  fair := fair
  call := call

namespace Program

variable (Inv : σ → Prop) (c : Contract σ Op Ans ε)

/-- In a turn begun in one state and now in another, the program keeps the contract
and ends in `Done`. The invariant holds at the ends of turns, not within them. -/
def Meets (Done : Except ε α → σ → σ → Prop) : Program σ Op Ans ε α → σ → σ → Prop
  | .ret value, begun, s => Done (.ok value) begun s
  | .fail error, begun, s => Done (.error error) begun s
  | .read next, begun, s => (next s).Meets Done begun s
  | .write update next, begun, s => next.Meets Done begun (update s)
  | .await op next, begun, s => c.Rests Inv begun s fun now =>
    c.call op now ∧ ∀ answer, c.fair now op answer → (next answer).Meets Done now now

variable {Inv c} {Done Done' : Except ε α → σ → σ → Prop} {begun s : σ}

variable {p : Program σ Op Ans ε α}

theorem Meets.mono (meets : p.Meets Inv c Done begun s)
    (done : ∀ outcome begun s, Done outcome begun s → Done' outcome begun s) :
    p.Meets Inv c Done' begun s := by
  induction p generalizing begun s with
  | ret | fail => exact done _ _ _ meets
  | read next ih => exact ih s meets
  | write update next ih => exact ih meets
  | await op next ih =>
    exact { meets with later := fun now relies inv =>
      ⟨(meets.later now relies inv).1, fun answer fair =>
        ih answer ((meets.later now relies inv).2 answer fair)⟩ }

@[simp] theorem meets_pure {value : α} :
    (pure value : Program σ Op Ans ε α).Meets Inv c Done begun s ↔ Done (.ok value) begun s :=
  Iff.rfl

theorem meets_bind {p : Program σ Op Ans ε β} {f : β → Program σ Op Ans ε α} :
    (p.bind f).Meets Inv c Done begun s ↔ p.Meets Inv c (fun outcome begun s => OnOutcome
      (fun value => (f value).Meets Inv c Done begun s)
      (fun error => Done (.error error) begun s) outcome) begun s := by
  induction p generalizing begun s with
  | ret => rfl
  | fail => rfl
  | read next ih => exact ih s
  | write update next ih => exact ih
  | await op next ih =>
    constructor
    · exact fun meets => { meets with later := fun now relies inv =>
        ⟨(meets.later now relies inv).1, fun answer fair =>
          (ih answer).mp ((meets.later now relies inv).2 answer fair)⟩ }
    · exact fun meets => { meets with later := fun now relies inv =>
        ⟨(meets.later now relies inv).1, fun answer fair =>
          (ih answer).mpr ((meets.later now relies inv).2 answer fair)⟩ }

@[simp] theorem meets_monad_bind {p : Program σ Op Ans ε β} {f : β → Program σ Op Ans ε α} :
    (p >>= f).Meets Inv c Done begun s ↔ p.Meets Inv c (fun outcome begun s => OnOutcome
      (fun value => (f value).Meets Inv c Done begun s)
      (fun error => Done (.error error) begun s) outcome) begun s := meets_bind

theorem meets_attempt {Done : Except ε (Except ε α) → σ → σ → Prop} :
    p.attempt.Meets Inv c Done begun s ↔
      p.Meets Inv c (fun outcome begun s => Done (.ok outcome) begun s) begun s := by
  induction p generalizing begun s with
  | ret => rfl
  | fail => rfl
  | read next ih => exact ih s
  | write update next ih => exact ih
  | await op next ih =>
    constructor
    · exact fun meets => { meets with later := fun now relies inv =>
        ⟨(meets.later now relies inv).1, fun answer fair =>
          (ih answer).mp ((meets.later now relies inv).2 answer fair)⟩ }
    · exact fun meets => { meets with later := fun now relies inv =>
        ⟨(meets.later now relies inv).1, fun answer fair =>
          (ih answer).mpr ((meets.later now relies inv).2 answer fair)⟩ }

theorem meets_ofExcept {outcome : Except ε α} :
    (ofExcept outcome : Program σ Op Ans ε α).Meets Inv c Done begun s ↔
      Done outcome begun s := by
  cases outcome <;> rfl

@[simp] theorem meets_ensuring {cleanup : Program σ Op Ans ε Unit} :
    (p.ensuring cleanup).Meets Inv c Done begun s ↔
      p.Meets Inv c (fun outcome begun s =>
        cleanup.Meets Inv c (fun cleaned begun s => OnOutcome
          (fun _ => Done outcome begun s)
          (fun error => Done (.error error) begun s) cleaned) begun s) begun s := by
  rw [ensuring, meets_bind, meets_attempt]
  simp only [onOutcome_ok, meets_bind, meets_ofExcept]

@[simp] theorem meets_get {Done : Except ε σ → σ → σ → Prop} :
    (get : Program σ Op Ans ε σ).Meets Inv c Done begun s ↔ Done (.ok s) begun s := Iff.rfl

@[simp] theorem meets_modify {update : σ → σ} {Done : Except ε Unit → σ → σ → Prop} :
    (modify update : Program σ Op Ans ε Unit).Meets Inv c Done begun s ↔
      Done (.ok ()) begun (update s) := Iff.rfl

variable {op : Op}

theorem meets_perform {Done : Except ε (Ans op) → σ → σ → Prop} :
    (perform op : Program σ Op Ans ε (Ans op)).Meets Inv c Done begun s ↔
      c.Rests Inv begun s fun now =>
        c.call op now ∧ ∀ answer, c.fair now op answer → Done answer now now := by
  simp only [perform, Meets, meets_ofExcept]

theorem meets_settle {Done : Except ε (Except ε (Ans op)) → σ → σ → Prop} :
    (settle op : Program σ Op Ans ε (Except ε (Ans op))).Meets Inv c Done begun s ↔
      c.Rests Inv begun s fun now =>
        c.call op now ∧ ∀ answer, c.fair now op answer → Done (.ok answer) now now := Iff.rfl

theorem meets_yield {Done : Except ε Unit → σ → σ → Prop} :
    (yield op : Program σ Op Ans ε Unit).Meets Inv c Done begun s ↔
      c.Rests Inv begun s fun now =>
        c.call op now ∧ ∀ answer, c.fair now op answer → Done (.ok ()) now now := Iff.rfl

theorem meets_call : (p.call op).Meets Inv c Done begun s ↔
      p.Meets Inv c (fun outcome begun s => c.Rests Inv begun s fun now =>
        c.call op now ∧ ∀ answer, c.fair now op answer → Done outcome now now) begun s := by
  rw [Program.call, meets_bind, meets_attempt]
  simp only [onOutcome_ok, Meets, meets_ofExcept]

theorem meets_ite {P : Prop} [Decidable P] {p q : Program σ Op Ans ε α}
    (left : P → p.Meets Inv c Done begun s) (right : ¬ P → q.Meets Inv c Done begun s) :
    (if P then p else q).Meets Inv c Done begun s := by
  split
  · next holds => exact left holds
  · next fails => exact right fails

/-- A task at rest: it awaits an answer, or it has settled in `done`. -/
def Stands (Inv : σ → Prop) (c : Contract σ Op Ans ε) (done : Except ε α → σ → Prop) :
    Program σ Op Ans ε α → σ → Prop
  | .ret value, s => ∀ now, c.rely s now → Inv now → done (.ok value) now
  | .fail error, s => ∀ now, c.rely s now → Inv now → done (.error error) now
  | .await op next, s => ∀ now, c.rely s now → Inv now → c.call op now ∧
      ∀ answer, c.fair now op answer → (next answer).Meets Inv c
        (fun outcome begun s => c.Rests Inv begun s (done outcome)) now now
  | _, _ => False

/-- Where a turn of a task that meets its contract ends. -/
theorem Meets.rests {done : Except ε α → σ → Prop}
    (meets : p.Meets Inv c (fun outcome begun s => c.Rests Inv begun s (done outcome)) begun s) :
    Inv (p.advance s).2 ∧ c.guarantee begun (p.advance s).2 ∧
      (p.advance s).1.Stands Inv c done (p.advance s).2 := by
  induction p generalizing s with
  | ret | fail => exact ⟨meets.invariant, meets.guarantee, meets.later⟩
  | read next ih => exact ih s meets
  | write update next ih => exact ih meets
  | await => exact ⟨meets.invariant, meets.guarantee, meets.later⟩

theorem Stands.later {done : Except ε α → σ → Prop} {s now : σ} (stands : p.Stands Inv c done s)
    (relies : c.rely s now) (trans : ∀ {s s' s''}, c.rely s s' → c.rely s' s'' → c.rely s s'') :
    p.Stands Inv c done now := by
  cases p with
  | ret | fail | await => exact fun later follows => stands later (trans relies follows)
  | _ => exact stands

/-! ### What a function does -/

/-- The writes and the calls of a program are of given kinds. -/
def Does (Write : (σ → σ) → Prop) (Call : Op → Prop) : Program σ Op Ans ε α → Prop
  | .ret _ => True
  | .fail _ => True
  | .read next => ∀ s, (next s).Does Write Call
  | .write update next => Write update ∧ next.Does Write Call
  | .await op next => Call op ∧ ∀ answer, (next answer).Does Write Call

/-- The program writes nothing to the shared state. -/
abbrev Quiet (p : Program σ Op Ans ε α) : Prop := p.Does (fun _ => False) fun _ => True

section Does

variable {Write : (σ → σ) → Prop} {Call : Op → Prop}

theorem Does.bind {p : Program σ Op Ans ε β} {f : β → Program σ Op Ans ε α}
    (does : p.Does Write Call) (after : ∀ value, (f value).Does Write Call) :
    (p >>= f).Does Write Call := by
  induction p with
  | ret value => exact after value
  | fail => trivial
  | read next ih => exact fun s => ih s (does s)
  | write update next ih => exact ⟨does.1, ih does.2⟩
  | await op next ih => exact ⟨does.1, fun answer => ih answer (does.2 answer)⟩

variable {p : Program σ Op Ans ε α}

theorem Does.attempt (does : p.Does Write Call) : p.attempt.Does Write Call := by
  induction p with
  | ret => trivial
  | fail => trivial
  | read next ih => exact fun s => ih s (does s)
  | write update next ih => exact ⟨does.1, ih does.2⟩
  | await op next ih => exact ⟨does.1, fun answer => ih answer (does.2 answer)⟩

theorem does_ofExcept (outcome : Except ε α) :
    (ofExcept outcome : Program σ Op Ans ε α).Does Write Call := by
  cases outcome <;> trivial

theorem does_get : (get : Program σ Op Ans ε σ).Does Write Call := fun _ => trivial

variable {op : Op}

theorem does_perform (isCall : Call op) :
    (perform op : Program σ Op Ans ε (Ans op)).Does Write Call :=
  ⟨isCall, fun answer => does_ofExcept answer⟩

theorem does_settle (isCall : Call op) :
    (settle op : Program σ Op Ans ε (Except ε (Ans op))).Does Write Call :=
  ⟨isCall, fun _ => trivial⟩

theorem Does.call (does : p.Does Write Call) (isCall : Call op) : (p.call op).Does Write Call :=
  does.attempt.bind fun outcome => ⟨isCall, fun _ => does_ofExcept outcome⟩

/-- What the writes and the time spent at the calls keep holds at the end of the program. -/
theorem Does.meets {P : σ → σ → Prop} (does : p.Does Write Call) (holds : P begun s)
    (writes : ∀ update begun s, Write update → P begun s → P begun (update s))
    (rests : ∀ op begun s, Call op → P begun s →
      c.Rests Inv begun s fun now => c.call op now ∧ P now now) :
    p.Meets Inv c (fun _ begun s => P begun s) begun s := by
  induction p generalizing begun s with
  | ret | fail => exact holds
  | read next ih => exact ih s (does s) holds
  | write update next ih => exact ih does.2 (writes _ _ _ does.1 holds)
  | await op next ih =>
    have rest := rests op begun s does.1 holds
    exact { rest with later := fun now relies inv =>
      ⟨(rest.later now relies inv).1, fun answer _ =>
        ih answer (does.2 answer) (rest.later now relies inv).2⟩ }

/-- A function that writes nothing keeps any invariant of the shared state. -/
theorem Does.meets_quiet {fair : σ → (op : Op) → Except ε (Ans op) → Prop} (quiet : p.Quiet)
    (inv : Inv s) (done : ∀ outcome begun s, Inv s → Done outcome begun s) :
    p.Meets Inv (.ofFair fair) Done begun s := by
  have keeps : p.Meets Inv (.ofFair fair) (fun _ _ s => Inv s) begun s := by
    refine quiet.meets (P := fun _ s => Inv s) inv (fun _ _ _ writes => writes.elim) ?_
    intro op begun s _ inv
    exact ⟨inv, trivial, fun _ _ inv => ⟨trivial, inv⟩⟩
  exact keeps.mono fun outcome begun s inv => done outcome begun s inv

theorem Does.meets_bind {fair : σ → (op : Op) → Except ε (Ans op) → Prop}
    {p : Program σ Op Ans ε β} {f : β → Program σ Op Ans ε α} (quiet : p.Quiet) (inv : Inv s)
    (after : ∀ value begun s, Inv s →
      (f value).Meets Inv (.ofFair fair) (fun _ _ s => Inv s) begun s) :
    (p >>= f).Meets Inv (.ofFair fair) (fun _ _ s => Inv s) begun s := by
  rw [meets_monad_bind]
  refine quiet.meets_quiet inv fun outcome begun s inv => ?_
  cases outcome with
  | error => exact inv
  | ok value => exact after value begun s inv

end Does

/-! ### Functions that call other functions of the loop -/

section Hosting

variable {τ Op' : Type} {Ans' : Op' → Type}

/-- A function that uses only the operations of the left side. -/
def inl : Program σ Op Ans ε α → Program σ (Op ⊕ Op') (Sum.elim Ans Ans') ε α
  | .ret value => .ret value
  | .fail error => .fail error
  | .read next => .read fun s => (next s).inl
  | .write update next => .write update next.inl
  | .await op next => .await (.inl op) fun answer => (next answer).inl

theorem Meets.inl {Inv : σ → Prop} {c : Contract σ (Op ⊕ Op') (Sum.elim Ans Ans') ε}
    {Done : Except ε α → σ → σ → Prop} {begun s : σ} {p : Program σ Op Ans ε α}
    (meets : p.Meets Inv c.left Done begun s) : p.inl.Meets Inv c Done begun s := by
  induction p generalizing begun s with
  | ret | fail => exact meets
  | read next ih => exact ih s meets
  | write update next ih => exact ih meets
  | await op next ih =>
    exact ⟨meets.invariant, meets.guarantee, fun now relies inv =>
      ⟨(meets.later now relies inv).1, fun answer fair =>
        ih answer ((meets.later now relies inv).2 answer fair)⟩⟩

theorem Calls.inl {Call : Op ⊕ Op' → Prop} {p : Program σ Op Ans ε α}
    (calls : p.Calls fun op => Call (.inl op)) :
    (p.inl : Program σ (Op ⊕ Op') (Sum.elim Ans Ans') ε α).Calls Call := by
  induction p with
  | ret => trivial
  | fail => trivial
  | read next ih => exact fun s => ih s (calls s)
  | write update next ih => exact ih calls
  | await op next ih => exact ⟨calls.1, fun answer => ih answer (calls.2 answer)⟩

/-- Run a function with variables of its own where its calls are answered by functions
on the shared state. -/
def hosted (handle : (op : Op) → Program σ Op' Ans' ε (Ans op)) :
    Program τ Op Ans ε α → τ → Program σ Op' Ans' ε α
  | .ret value, _ => .ret value
  | .fail error, _ => .fail error
  | .read next, own => (next own).hosted handle own
  | .write update next, own => next.hosted handle (update own)
  | .await op next, own => (handle op).attempt.bind fun answer => (next answer).hosted handle own

theorem Calls.hosted {Call : Op' → Prop} {handle : (op : Op) → Program σ Op' Ans' ε (Ans op)}
    (handles : ∀ op, (handle op).Calls Call) (p : Program τ Op Ans ε α) (own : τ) :
    (p.hosted handle own).Calls Call := by
  induction p generalizing own with
  | ret => trivial
  | fail => trivial
  | read next ih => exact ih own own
  | write update next ih => exact ih (update own)
  | await op next ih => exact (handles op).attempt.bind fun answer => ih answer own

/-- `Mid` ties what the function has been answered so far to the shared state. Where
each handler keeps it, the hosted function ends where its variables say it does. -/
theorem Ends.hosted {Inv : σ → Prop} {c : Contract σ Op' Ans' ε} {begun s : σ}
    {handle : (op : Op) → Program σ Op' Ans' ε (Ans op)} {p : Program τ Op Ans ε α} {own : τ}
    {history : List (Event τ Op Ans ε)} {Done : List (Event τ Op Ans ε) → Except ε α → τ → Prop}
    {Mid : List (Event τ Op Ans ε) → σ → σ → Prop} (ends : p.Ends Done own history)
    (mid : Mid history begun s)
    (handles : ∀ op history begun s, Mid history begun s → (handle op).Meets Inv c
      (fun answer begun s => ∀ own, Mid (⟨op, answer, own, own⟩ :: history) begun s) begun s) :
    (p.hosted handle own).Meets Inv c
      (fun outcome begun s => ∃ history own, Done history outcome own ∧ Mid history begun s)
      begun s := by
  induction p generalizing own history begun s with
  | ret | fail => exact ⟨history, own, ends, mid⟩
  | read next ih => exact ih own ends mid
  | write update next ih => exact ih ends mid
  | await op next ih =>
    rw [Program.hosted, meets_bind, meets_attempt]
    refine (handles op history begun s mid).mono fun answer begun s mid => ?_
    exact ih answer (ends answer) (mid own)

end Hosting

end Program

/-! ### The contracts of a loop -/

/-- The contract of each task, by its number and call, and what holds once it has
settled. `fresh` says what is so for the number of a task not yet called. -/
structure Discipline (σ κ Op : Type) (Ans : Op → Type) (ε α : Type) where
  invariant : σ → Prop
  fresh : Nat → σ → Prop
  contract : Nat → κ → Contract σ Op Ans ε
  done : Nat → κ → Except ε α → σ → Prop

namespace Discipline

variable (D : Discipline σ κ Op Ans ε α)

/-- What each task guarantees is what the others rely on. -/
structure Lawful : Prop where
  refl : ∀ i call s, (D.contract i call).rely s s
  trans : ∀ i call {s s' s''}, (D.contract i call).rely s s' → (D.contract i call).rely s' s'' →
    (D.contract i call).rely s s''
  others : ∀ {i j} call other {s s'}, i ≠ j → D.invariant s → D.invariant s' →
    (D.contract i call).guarantee s s' → (D.contract j other).rely s s'
  fresh : ∀ {i j} call {s s'}, i < j → D.invariant s → D.invariant s' →
    (D.contract i call).guarantee s s' → D.fresh j s → D.fresh j s'

/-- The task can be called in `s`. -/
def Begins (body : Nat → κ → Program σ Op Ans ε α) (i : Nat) (call : κ) (s : σ) : Prop :=
  (body i call).Meets D.invariant (D.contract i call) (fun outcome begun s =>
    (D.contract i call).Rests D.invariant begun s (D.done i call outcome)) s s

/-- Every task of the loop stands by its contract. -/
structure Kept (loop : EventLoop σ κ Op Ans ε α) : Prop where
  invariant : D.invariant loop.shared
  fresh : ∀ i, loop.tasks.length ≤ i → D.fresh i loop.shared
  tasks : ∀ i call (p : Program σ Op Ans ε α), loop.tasks[i]? = some (call, p) →
    p.Stands D.invariant (D.contract i call) (D.done i call) loop.shared

variable {D} {body : Nat → κ → Program σ Op Ans ε α} {loop : EventLoop σ κ Op Ans ε α}

theorem kept_empty {s : σ} (invariant : D.invariant s) (fresh : ∀ i, D.fresh i s) :
    D.Kept ⟨s, []⟩ :=
  ⟨invariant, fun i _ => fresh i, fun i call p found => by cases found⟩

theorem Kept.start (kept : D.Kept loop) (lawful : D.Lawful) {call : κ}
    (begins : D.Begins body loop.tasks.length call loop.shared) :
    D.Kept (loop.turn body (.start call)) := by
  obtain ⟨invariant, guarantee, stands⟩ := begins.rests
  refine ⟨invariant, fun i le => ?_, fun i other p found => ?_⟩
  · rw [EventLoop.turn, List.length_append, List.length_singleton] at le
    exact lawful.fresh call le kept.invariant invariant guarantee (kept.fresh i (by omega))
  · rw [EventLoop.turn] at found
    rcases Nat.lt_trichotomy i loop.tasks.length with lt | rfl | gt
    · rw [List.getElem?_append_left lt] at found
      exact (kept.tasks i other p found).later
        (lawful.others call other (by omega) kept.invariant invariant guarantee)
        (lawful.trans i other)
    · rw [List.getElem?_append_right (Nat.le_refl _), Nat.sub_self] at found
      cases found
      exact stands
    · rw [List.getElem?_append_right (by omega)] at found
      have more : i - loop.tasks.length ≠ 0 := by omega
      obtain ⟨k, isSucc⟩ := Nat.exists_eq_succ_of_ne_zero more
      rw [isSucc] at found
      cases found

theorem Kept.resume (kept : D.Kept loop) (lawful : D.Lawful) {task : Nat}
    {answer : (op : Op) → Except ε (Ans op)}
    (fair : ∀ call op next, loop.tasks[task]? = some (call, .await op next) →
      (D.contract task call).fair loop.shared op (answer op)) :
    D.Kept (loop.turn body (.resume task answer)) := by
  rcases loop.resume_cases task with ⟨call, op, next, awaits⟩ | idle
  · have continues := kept.tasks task call _ awaits loop.shared (lawful.refl task call _)
      kept.invariant
    obtain ⟨invariant, guarantee, stands⟩ :=
      (continues.2 (answer op) (fair call op next awaits)).rests
    obtain ⟨lt, -⟩ := List.getElem?_eq_some_iff.mp awaits
    rw [EventLoop.resume_awaiting awaits]
    refine ⟨invariant, fun i le => ?_, fun i other p found => ?_⟩
    · rw [List.length_set] at le
      exact lawful.fresh call (by omega) kept.invariant invariant guarantee (kept.fresh i le)
    · by_cases same : task = i
      · subst same
        rw [List.getElem?_set_self lt] at found
        cases found
        exact stands
      · rw [List.getElem?_set_ne same] at found
        exact (kept.tasks i other p found).later
          (lawful.others call other same kept.invariant invariant guarantee)
          (lawful.trans i other)
  · rw [EventLoop.resume_idle idle]
    exact kept

/-- A run of allowed turns keeps every contract. -/
theorem Kept.run {Allowed : EventLoop σ κ Op Ans ε α → Turn κ Op Ans ε → Prop}
    {turns : List (Turn κ Op Ans ε)} (kept : D.Kept loop) (lawful : D.Lawful)
    (begins : ∀ {loop call}, D.Kept loop → Allowed loop (.start call) →
      D.Begins body loop.tasks.length call loop.shared)
    (fair : ∀ {loop task answer}, D.Kept loop → Allowed loop (.resume task answer) →
      ∀ call op next, loop.tasks[task]? = some (call, .await op next) →
        (D.contract task call).fair loop.shared op (answer op))
    (allows : EventLoop.Allows body Allowed loop turns) : D.Kept (loop.run body turns) := by
  refine EventLoop.run_induction (fun {loop first} kept allowed => ?_) kept allows
  cases first with
  | start => exact kept.start lawful (begins kept allowed)
  | resume => exact kept.resume lawful (fair kept allowed)

/-- What a settled task has settled in. -/
theorem Kept.done (kept : D.Kept loop) (lawful : D.Lawful) {task : Nat}
    {outcome : Except ε α} (settled : loop.outcome task = some outcome) :
    ∃ call p, loop.tasks[task]? = some (call, p) ∧ D.done task call outcome loop.shared := by
  obtain ⟨call, p, found, ended⟩ := EventLoop.outcome_eq_some.mp settled
  refine ⟨call, p, found, ?_⟩
  have stands := kept.tasks task call p found
  cases p with
  | ret | fail => cases ended; exact stands _ (lawful.refl task call _) kept.invariant
  | _ => cases ended

/-- What a task awaits is what its contract lets it call. -/
theorem Kept.call (kept : D.Kept loop) (lawful : D.Lawful) {task : Nat} {op : Op}
    (pending : loop.pending task = some op) :
    ∃ call p, loop.tasks[task]? = some (call, p) ∧ (D.contract task call).call op loop.shared := by
  obtain ⟨⟨call, p⟩, found, waits⟩ := Option.bind_eq_some_iff.mp pending
  refine ⟨call, p, found, ?_⟩
  have stands := kept.tasks task call p found
  cases p with
  | await =>
    cases waits
    exact (stands _ (lawful.refl task call _) kept.invariant).1
  | _ => cases waits

/-- Where each task has a part of the state to itself. -/
theorem lawful_owned {τ : Type} {own : Nat → σ → τ}
    {fair : Nat → κ → σ → (op : Op) → Except ε (Ans op) → Prop} {calls : Nat → κ → Op → σ → Prop}
    (isOwned : ∀ i call, D.contract i call = .owned own i (fair i call) (calls i call))
    (fresh : ∀ j s s', own j s' = own j s → D.fresh j s → D.fresh j s') : D.Lawful where
  refl i call s := by
    rw [isOwned]
    exact rfl
  trans i call s s' s'' first second := by
    rw [isOwned] at *
    exact Eq.trans second first
  others call other s s' differs _ _ guarantee := by
    rw [isOwned] at *
    exact guarantee _ (Ne.symm differs)
  fresh call s s' lt _ _ guarantee isFresh := by
    rw [isOwned] at guarantee
    exact fresh _ s s' (guarantee _ (Nat.ne_of_gt lt)) isFresh

/-- The discipline of an invariant of the shared state alone. -/
def ofFair (Inv : σ → Prop) (fair : σ → (op : Op) → Except ε (Ans op) → Prop) :
    Discipline σ κ Op Ans ε α where
  invariant := Inv
  fresh _ _ := True
  contract _ _ := .ofFair fair
  done _ _ _ _ := True

end Discipline

/-- An invariant that every function keeps with fair answers holds after every run in which the
answers are fair. -/
theorem EventLoop.run_ofFair {Inv : σ → Prop} (fair : σ → (op : Op) → Except ε (Ans op) → Prop)
    {body : Nat → κ → Program σ Op Ans ε α} {turns : List (Turn κ Op Ans ε)} {s : σ}
    (keeps : ∀ i call s, Inv s →
      (body i call).Meets Inv (.ofFair fair) (fun _ _ s => Inv s) s s)
    (holds : Inv s)
    (allows : Allows body (fun loop turn => ∀ task answer, turn = .resume task answer →
      ∀ op, loop.pending task = some op → fair loop.shared op (answer op)) ⟨s, []⟩ turns) :
    Inv (run body ⟨s, []⟩ turns).shared := by
  let D : Discipline σ κ Op Ans ε α := .ofFair Inv fair
  have lawful : D.Lawful := by
    constructor <;> intros <;> trivial
  have kept : D.Kept (run body ⟨s, []⟩ turns) := by
    refine (Discipline.kept_empty holds fun _ => trivial).run lawful ?_ ?_ allows
    · intro loop call kept _
      refine (keeps loop.tasks.length call loop.shared kept.invariant).mono ?_
      intro outcome begun s inv
      exact ⟨inv, trivial, fun _ _ _ => trivial⟩
    · intro loop task answer _ fair call op next awaits
      exact fair task answer rfl op (by rw [pending, awaits]; rfl)
  exact kept.invariant

end ModemStack.Async
