import Mathlib.Logic.Basic

/-!
Async functions as programs over shared state.

Between two awaits an async function runs without interruption: it reads and
writes the shared state (`read`, `write`). At an await it calls an operation and
yields; the event loop resumes it later, with a value or a rejection, in
whatever state the other tasks have left (`await`). `Always` is the proof rule
for such code: it holds of a program when every call it makes and every way it
ends meet a given predicate, over the whole history of answers so far.
-/

namespace ModemStack.Async

/-- An async function from the point where it is about to run. `Ans op` is the
type of value operation `op` resolves with, `ε` the type of rejections. -/
inductive Program (σ Op : Type) (Ans : Op → Type) (ε α : Type) : Type where
  | ret (value : α)
  | fail (error : ε)
  | read (next : σ → Program σ Op Ans ε α)
  | write (update : σ → σ) (next : Program σ Op Ans ε α)
  | await (op : Op) (next : Except ε (Ans op) → Program σ Op Ans ε α)

/-- One answered await: the operation, its answer, the shared state when the
call was made and the one in which the function was resumed. -/
structure Event (σ Op : Type) (Ans : Op → Type) (ε : Type) where
  op : Op
  answer : Except ε (Ans op)
  called : σ
  resumed : σ

/-- The shared state in which the current turn began: the state the function was
started in, or the one it was last resumed in. -/
def turnStart {σ Op : Type} {Ans : Op → Type} {ε : Type} (begun : σ) :
    List (Event σ Op Ans ε) → σ
  | [] => begun
  | event :: _ => event.resumed

/-- What must hold of an outcome: `ok` of a value, `error` of a rejection. -/
def OnOutcome {ε α : Type} (ok : α → Prop) (error : ε → Prop) : Except ε α → Prop
  | .ok value => ok value
  | .error e => error e

section OnOutcome

variable {ε α : Type} {ok : α → Prop} {error : ε → Prop}

@[simp] theorem onOutcome_ok {value : α} : OnOutcome ok error (.ok value) ↔ ok value := Iff.rfl

@[simp] theorem onOutcome_error {e : ε} : OnOutcome ok error (.error e) ↔ error e := Iff.rfl

end OnOutcome

variable {σ Op : Type} {Ans : Op → Type} {ε α β : Type}

namespace Program

/-! ### Sequencing -/

def bind : Program σ Op Ans ε α → (α → Program σ Op Ans ε β) → Program σ Op Ans ε β
  | .ret value, f => f value
  | .fail error, _ => .fail error
  | .read next, f => .read fun s => (next s).bind f
  | .write update next, f => .write update (next.bind f)
  | .await op next, f => .await op fun answer => (next answer).bind f

instance : Monad (Program σ Op Ans ε) where
  pure := .ret
  bind := bind

/-- Run `p` and hand its outcome on as a value: the body of a `try`. -/
def attempt : Program σ Op Ans ε α → Program σ Op Ans ε (Except ε α)
  | .ret value => .ret (.ok value)
  | .fail error => .ret (.error error)
  | .read next => .read fun s => (next s).attempt
  | .write update next => .write update next.attempt
  | .await op next => .await op fun answer => (next answer).attempt

/-- Resume with an outcome: the value, or the rejection rethrown. -/
def ofExcept : Except ε α → Program σ Op Ans ε α
  | .ok value => .ret value
  | .error error => .fail error

/-- `try { p } catch (error) { handler }`. -/
def «catch» (p : Program σ Op Ans ε α) (handler : ε → Program σ Op Ans ε α) :
    Program σ Op Ans ε α :=
  p.attempt.bind fun
    | .ok value => .ret value
    | .error error => handler error

/-- `try { p } finally { cleanup }`. -/
def ensuring (p : Program σ Op Ans ε α) (cleanup : Program σ Op Ans ε Unit) :
    Program σ Op Ans ε α :=
  p.attempt.bind fun outcome => cleanup.bind fun _ => ofExcept outcome

/-- Await one operation. -/
def perform (op : Op) : Program σ Op Ans ε (Ans op) := .await op ofExcept

/-- Await one operation and take its rejection as a value, as
`.then(value, error)` does. -/
def settle (op : Op) : Program σ Op Ans ε (Except ε (Ans op)) := .await op .ret

/-- Await something that has already resolved: nothing is learned, but the other
tasks get a turn. -/
def yield (op : Op) : Program σ Op Ans ε Unit := .await op fun _ => .ret ()

/-- Await another async function. Its caller goes on one turn, `op`, after it has
settled. -/
def call (op : Op) (p : Program σ Op Ans ε α) : Program σ Op Ans ε α :=
  p.attempt.bind fun outcome => .await op fun _ => ofExcept outcome

/-- Read the shared state. -/
def get : Program σ Op Ans ε σ := .read .ret

/-- Update the shared state. -/
def modify (update : σ → σ) : Program σ Op Ans ε Unit := .write update (.ret ())

/-! ### The event loop -/

/-- Run to the next await, or to the end. -/
def advance : Program σ Op Ans ε α → σ → Program σ Op Ans ε α × σ
  | .ret value, s => (.ret value, s)
  | .fail error, s => (.fail error, s)
  | .read next, s => (next s).advance s
  | .write update next, s => next.advance (update s)
  | .await op next, s => (.await op next, s)

/-- `Reaches p s history p' s'`: started in `s`, the function has received the
answers in `history` (latest first) and now stands at `p'`, the shared state
being `s'` at the moment it got there. -/
inductive Reaches (p : Program σ Op Ans ε α) (s : σ) :
    List (Event σ Op Ans ε) → Program σ Op Ans ε α → σ → Prop where
  | start : Reaches p s [] (p.advance s).1 (p.advance s).2
  | resume {history : List (Event σ Op Ans ε)} {op : Op}
      {next : Except ε (Ans op) → Program σ Op Ans ε α} {called : σ}
      (before : Reaches p s history (.await op next) called)
      (answer : Except ε (Ans op)) (resumed : σ) :
      Reaches p s (⟨op, answer, called, resumed⟩ :: history)
        ((next answer).advance resumed).1 ((next answer).advance resumed).2

/-! ### The proof rule -/

/-- Every call the program makes meets `Call` and every outcome meets `Done`,
whatever the answers and whatever the other tasks do to the shared state between
a call and its answer. Both predicates see the history of answers so far. -/
def Always (Call : List (Event σ Op Ans ε) → Op → σ → Prop)
    (Done : List (Event σ Op Ans ε) → Except ε α → σ → Prop) :
    Program σ Op Ans ε α → σ → List (Event σ Op Ans ε) → Prop
  | .ret value, s, history => Done history (.ok value) s
  | .fail error, s, history => Done history (.error error) s
  | .read next, s, history => (next s).Always Call Done s history
  | .write update next, s, history => next.Always Call Done (update s) history
  | .await op next, s, history => Call history op s ∧
      ∀ answer resumed, (next answer).Always Call Done resumed
        (⟨op, answer, s, resumed⟩ :: history)

section Rules

variable {Call : List (Event σ Op Ans ε) → Op → σ → Prop}
  {Done : List (Event σ Op Ans ε) → Except ε α → σ → Prop}
  {s : σ} {history : List (Event σ Op Ans ε)}

variable {op : Op}

@[simp] theorem always_await {next : Except ε (Ans op) → Program σ Op Ans ε α} :
    (await op next).Always Call Done s history ↔ Call history op s ∧
      ∀ answer resumed, (next answer).Always Call Done resumed
        (⟨op, answer, s, resumed⟩ :: history) := Iff.rfl

/-- Sequencing: what follows starts from the value the first part returned; a
rejection of the first part is one of the whole. -/
theorem always_bind {p : Program σ Op Ans ε β} {f : β → Program σ Op Ans ε α} :
    (p.bind f).Always Call Done s history ↔
      p.Always Call (fun history outcome s => OnOutcome
        (fun value => (f value).Always Call Done s history)
        (fun error => Done history (.error error) s) outcome) s history := by
  induction p generalizing s history with
  | ret => rfl
  | fail => rfl
  | read next ih => exact ih s
  | write update next ih => exact ih
  | await op next ih =>
    simp only [bind, always_await]
    exact and_congr_right fun _ => forall_congr' fun answer => forall_congr' fun resumed =>
      ih answer

@[simp] theorem always_monad_bind {p : Program σ Op Ans ε β} {f : β → Program σ Op Ans ε α} :
    (p >>= f).Always Call Done s history ↔
      p.Always Call (fun history outcome s => OnOutcome
        (fun value => (f value).Always Call Done s history)
        (fun error => Done history (.error error) s) outcome) s history := always_bind

@[simp] theorem always_pure {value : α} :
    (pure value : Program σ Op Ans ε α).Always Call Done s history ↔
      Done history (.ok value) s := Iff.rfl

variable {p : Program σ Op Ans ε α}

theorem always_attempt {Done : List (Event σ Op Ans ε) → Except ε (Except ε α) → σ → Prop} :
    p.attempt.Always Call Done s history ↔
      p.Always Call (fun history outcome s => Done history (.ok outcome) s) s history := by
  induction p generalizing s history with
  | ret => rfl
  | fail => rfl
  | read next ih => exact ih s
  | write update next ih => exact ih
  | await op next ih =>
    simp only [attempt, always_await]
    exact and_congr_right fun _ => forall_congr' fun answer => forall_congr' fun resumed =>
      ih answer

theorem always_ofExcept {outcome : Except ε α} :
    (ofExcept outcome : Program σ Op Ans ε α).Always Call Done s history ↔
      Done history outcome s := by
  cases outcome <;> rfl

@[simp] theorem always_ensuring {cleanup : Program σ Op Ans ε Unit} :
    (p.ensuring cleanup).Always Call Done s history ↔
      p.Always Call (fun history outcome s =>
        cleanup.Always Call (fun history cleaned s => OnOutcome
          (fun _ => Done history outcome s)
          (fun error => Done history (.error error) s) cleaned) s history) s history := by
  rw [ensuring, always_bind, always_attempt]
  simp only [onOutcome_ok, always_bind, always_ofExcept]

@[simp] theorem always_perform {Done : List (Event σ Op Ans ε) → Except ε (Ans op) → σ → Prop} :
    (perform op).Always Call Done s history ↔ Call history op s ∧
      ∀ answer resumed, Done (⟨op, answer, s, resumed⟩ :: history) answer resumed := by
  simp only [perform, always_await]
  refine and_congr_right fun _ => forall_congr' fun answer => forall_congr' fun resumed => ?_
  cases answer <;> rfl

@[simp] theorem always_yield {Done : List (Event σ Op Ans ε) → Except ε Unit → σ → Prop} :
    (yield op).Always Call Done s history ↔ Call history op s ∧
      ∀ answer resumed, Done (⟨op, answer, s, resumed⟩ :: history) (.ok ()) resumed := Iff.rfl

@[simp] theorem always_call : (p.call op).Always Call Done s history ↔
      p.Always Call (fun history outcome s => Call history op s ∧
        ∀ answer resumed, Done (⟨op, answer, s, resumed⟩ :: history) outcome resumed)
        s history := by
  rw [call, always_bind, always_attempt]
  simp only [onOutcome_ok, always_await, always_ofExcept]

@[simp] theorem always_get
    {Done : List (Event σ Op Ans ε) → Except ε σ → σ → Prop} :
    (get : Program σ Op Ans ε σ).Always Call Done s history ↔ Done history (.ok s) s := Iff.rfl

@[simp] theorem always_modify {update : σ → σ}
    {Done : List (Event σ Op Ans ε) → Except ε Unit → σ → Prop} :
    (modify update).Always Call Done s history ↔ Done history (.ok ()) (update s) := Iff.rfl

/-- The rule of consequence. -/
theorem Always.mono {Call' : List (Event σ Op Ans ε) → Op → σ → Prop}
    {Done' : List (Event σ Op Ans ε) → Except ε α → σ → Prop}
    (always : p.Always Call Done s history)
    (call : ∀ history op s, Call history op s → Call' history op s)
    (done : ∀ history outcome s, Done history outcome s → Done' history outcome s) :
    p.Always Call' Done' s history := by
  induction p generalizing s history with
  | ret | fail => exact done _ _ _ always
  | read next ih => exact ih s always
  | write update next ih => exact ih always
  | await op next ih =>
    exact ⟨call _ _ _ always.1, fun answer resumed => ih answer (always.2 answer resumed)⟩

theorem Always.and {Call' : List (Event σ Op Ans ε) → Op → σ → Prop}
    {Done' : List (Event σ Op Ans ε) → Except ε α → σ → Prop} (left : p.Always Call Done s history)
    (right : p.Always Call' Done' s history) :
    p.Always (fun history op s => Call history op s ∧ Call' history op s)
      (fun history outcome s => Done history outcome s ∧ Done' history outcome s) s history := by
  induction p generalizing s history with
  | ret | fail => exact ⟨left, right⟩
  | read next ih => exact ih s left right
  | write update next ih => exact ih left right
  | await op next ih =>
    exact ⟨⟨left.1, right.1⟩,
      fun answer resumed => ih answer (left.2 answer resumed) (right.2 answer resumed)⟩

theorem always_advance : (p.advance s).1.Always Call Done (p.advance s).2 history ↔
      p.Always Call Done s history := by
  induction p generalizing s with
  | ret => rfl
  | fail => rfl
  | read next ih => exact ih s
  | write update next ih => exact ih
  | await => rfl

/-- Soundness: what `Always` says holds wherever the event loop takes the
function. -/
theorem Reaches.always {p p' : Program σ Op Ans ε α} {s' : σ}
    (reaches : Reaches p s history p' s') (always : p.Always Call Done s []) :
    p'.Always Call Done s' history := by
  induction reaches with
  | start => exact always_advance.mpr always
  | resume before answer resumed ih => exact always_advance.mpr (ih.2 answer resumed)

/-- Every await in a history was a call that met `Call`. -/
def Called (Call : List (Event σ Op Ans ε) → Op → σ → Prop) : List (Event σ Op Ans ε) → Prop
  | [] => True
  | event :: history => Call history event.op event.called ∧ Called Call history

/-- What `Always` says of the calls holds of those already answered. -/
theorem Reaches.called {p p' : Program σ Op Ans ε α} {s' : σ}
    (reaches : Reaches p s history p' s') (always : p.Always Call Done s []) :
    Called Call history := by
  induction reaches with
  | start => trivial
  | resume before answer resumed ih => exact ⟨(before.always always).1, ih⟩

/-- What is said of a call or of an outcome may use what was said of the calls before it. -/
theorem Always.withCalled (always : p.Always Call Done s history) (called : Called Call history) :
    p.Always (fun history op s => Called Call history ∧ Call history op s)
      (fun history outcome s => Called Call history ∧ Done history outcome s) s history := by
  induction p generalizing s history with
  | ret | fail => exact ⟨called, always⟩
  | read next ih => exact ih s always called
  | write update next ih => exact ih always called
  | await op next ih =>
    exact ⟨⟨called, always.1⟩,
      fun answer resumed => ih answer (always.2 answer resumed) ⟨always.1, called⟩⟩

end Rules

/-! ### Where a function stands -/

/-- The program is at an await or at its end. -/
def Settled : Program σ Op Ans ε α → Prop
  | .read _ | .write _ _ => False
  | _ => True

theorem settled_advance (p : Program σ Op Ans ε α) (s : σ) : (p.advance s).1.Settled := by
  induction p generalizing s with
  | ret => trivial
  | fail => trivial
  | read next ih => exact ih s s
  | write update next ih => exact ih (update s)
  | await => trivial

/-- The operation the function is waiting for, if any. -/
def pending : Program σ Op Ans ε α → Option Op
  | .await op _ => some op
  | _ => none

/-- The outcome of a function that has ended. -/
def outcome : Program σ Op Ans ε α → Option (Except ε α)
  | .ret value => some (.ok value)
  | .fail error => some (.error error)
  | _ => none

variable {p : Program σ Op Ans ε α}

theorem outcome_of_pending {op : Op} (waits : p.pending = some op) : p.outcome = none := by
  cases p <;> simp [Program.pending] at waits
  rfl

theorem Settled.cases (settled : p.Settled) :
    (∃ op, p.pending = some op) ∨ ∃ result, p.outcome = some result := by
  cases p with
  | ret | fail => exact .inr ⟨_, rfl⟩
  | read | write => exact settled.elim
  | await op next => exact .inl ⟨op, rfl⟩

variable {history : List (Event σ Op Ans ε)}

theorem Reaches.settled {p p' : Program σ Op Ans ε α} {s s' : σ}
    (reaches : Reaches p s history p' s') : p'.Settled := by
  cases reaches with
  | start => exact settled_advance p s
  | resume => exact settled_advance _ _

theorem Always.pending {Call : List (Event σ Op Ans ε) → Op → σ → Prop}
    {Done : List (Event σ Op Ans ε) → Except ε α → σ → Prop} {s : σ} {op : Op}
    (always : p.Always Call Done s history) (waits : p.pending = some op) : Call history op s := by
  cases p <;> simp only [Program.pending, Option.some.injEq, reduceCtorEq] at waits
  subst waits
  exact always.1

theorem Always.outcome {Call : List (Event σ Op Ans ε) → Op → σ → Prop}
    {Done : List (Event σ Op Ans ε) → Except ε α → σ → Prop} {s : σ} {result : Except ε α}
    (always : p.Always Call Done s history) (ended : p.outcome = some result) :
    Done history result s := by
  cases p <;> simp only [Program.outcome, Option.some.injEq, reduceCtorEq] at ended
  all_goals subst ended; exact always

end Program

end ModemStack.Async
