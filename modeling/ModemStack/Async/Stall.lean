import ModemStack.Async.Drive

/-!
Calls that are never answered, and calls that are made by another function.

`stall` runs a function to its end or to the first call that stays unanswered. `interpret` lets
an async function of another kind stand behind each call.
-/

namespace ModemStack.Async

variable {σ τ Op Op' : Type} {Ans : Op → Type} {Ans' : Op' → Type} {ε α β : Type}

/-- What every call is answered, given the answers so far (latest first), or that it never is. -/
abbrev SilentWorld (σ Op : Type) (Ans : Op → Type) (ε : Type) : Type :=
  List (Event σ Op Ans ε) → (op : Op) → Option (Except ε (Ans op))

/-- A run as far as it comes. Without an outcome it waits for the answer to a last call. -/
structure Stalled (σ Op : Type) (Ans : Op → Type) (ε α : Type) where
  outcome : Option (Except ε α)
  state : σ
  history : List (Event σ Op Ans ε)
  waiting : Option Op

namespace Stalled

/-- The calls made, the first one first. -/
def calls (run : Stalled σ Op Ans ε α) : List Op :=
  (run.history.map Event.op).reverse ++ run.waiting.toList

/-- What is done when a run has ended. -/
def follow (run : Stalled σ Op Ans ε α)
    (next : Except ε α → σ → List (Event σ Op Ans ε) → Stalled σ Op Ans ε β) :
    Stalled σ Op Ans ε β :=
  match run.outcome with
  | some outcome => next outcome run.state run.history
  | none => ⟨none, run.state, run.history, run.waiting⟩

@[simp] theorem follow_some {outcome : Except ε α} {s : σ} {history : List (Event σ Op Ans ε)}
    {waiting : Option Op} {next : Except ε α → σ → List (Event σ Op Ans ε) → Stalled σ Op Ans ε β} :
    follow ⟨some outcome, s, history, waiting⟩ next = next outcome s history := rfl

@[simp] theorem follow_none {s : σ} {history : List (Event σ Op Ans ε)} {waiting : Option Op}
    {next : Except ε α → σ → List (Event σ Op Ans ε) → Stalled σ Op Ans ε β} :
    follow ⟨none, s, history, waiting⟩ next = ⟨none, s, history, waiting⟩ := rfl

end Stalled

namespace Program

/-! ### Runs that may stall -/

def stall (world : SilentWorld σ Op Ans ε) :
    Program σ Op Ans ε α → σ → List (Event σ Op Ans ε) → Stalled σ Op Ans ε α
  | .ret value, s, history => ⟨some (.ok value), s, history, none⟩
  | .fail error, s, history => ⟨some (.error error), s, history, none⟩
  | .read next, s, history => (next s).stall world s history
  | .write update next, s, history => next.stall world (update s) history
  | .await op next, s, history =>
    match world history op with
    | some answer => (next answer).stall world s (⟨op, answer, s, s⟩ :: history)
    | none => ⟨none, s, history, some op⟩

section Stall

variable {world : SilentWorld σ Op Ans ε} {s : σ} {history : List (Event σ Op Ans ε)}

@[simp] theorem stall_pure {value : α} : (pure value : Program σ Op Ans ε α).stall world s history =
    ⟨some (.ok value), s, history, none⟩ := rfl

@[simp] theorem stall_fail {error : ε} : (fail error : Program σ Op Ans ε α).stall world s history =
    ⟨some (.error error), s, history, none⟩ := rfl

theorem stall_bind {p : Program σ Op Ans ε β} {f : β → Program σ Op Ans ε α} :
    (p.bind f).stall world s history =
      (p.stall world s history).follow fun outcome s history =>
        match outcome with
        | .ok value => (f value).stall world s history
        | .error error => ⟨some (.error error), s, history, none⟩ := by
  induction p generalizing s history with
  | ret => rfl
  | fail => rfl
  | read next ih => exact ih s
  | write update next ih => exact ih
  | await op next ih =>
    simp only [bind, stall]
    cases world history op with
    | none => rfl
    | some answer => exact ih answer

@[simp] theorem stall_monad_bind {p : Program σ Op Ans ε β} {f : β → Program σ Op Ans ε α} :
    (p >>= f).stall world s history =
      (p.stall world s history).follow fun outcome s history =>
        match outcome with
        | .ok value => (f value).stall world s history
        | .error error => ⟨some (.error error), s, history, none⟩ := stall_bind

variable {p : Program σ Op Ans ε α}

theorem stall_attempt : p.attempt.stall world s history =
      (p.stall world s history).follow fun outcome s history =>
        ⟨some (.ok outcome), s, history, none⟩ := by
  induction p generalizing s history with
  | ret => rfl
  | fail => rfl
  | read next ih => exact ih s
  | write update next ih => exact ih
  | await op next ih =>
    simp only [attempt, stall]
    cases world history op with
    | none => rfl
    | some answer => exact ih answer

@[simp] theorem stall_catch {handler : ε → Program σ Op Ans ε α} :
    (p.catch handler).stall world s history =
      (p.stall world s history).follow fun outcome s history =>
        match outcome with
        | .ok value => ⟨some (.ok value), s, history, none⟩
        | .error error => (handler error).stall world s history := by
  rw [«catch», stall_bind, stall_attempt]
  cases outcome : (p.stall world s history).outcome with
  | none => simp only [Stalled.follow, outcome]
  | some outcome' =>
    simp only [Stalled.follow, outcome]
    cases outcome' <;> rfl

@[simp] theorem stall_perform {op : Op} :
    (perform op : Program σ Op Ans ε (Ans op)).stall world s history =
      match world history op with
      | some answer => ⟨some answer, s, ⟨op, answer, s, s⟩ :: history, none⟩
      | none => ⟨none, s, history, some op⟩ := by
  unfold perform stall
  cases world history op with
  | none => rfl
  | some answer => cases answer <;> rfl

/-- The calls of a run are those of its history and calls the function can make. -/
theorem Calls.stall {Call : Op → Prop} (calls : p.Calls Call) :
    ∃ later, (p.stall world s history).calls = (history.map Event.op).reverse ++ later ∧
      ∀ op ∈ later, Call op := by
  induction p generalizing s history with
  | ret | fail => exact ⟨[], rfl, nofun⟩
  | read next ih => exact ih s (calls s)
  | write update next ih => exact ih calls
  | await op next ih =>
    rw [Program.stall]
    cases world history op with
    | none => exact ⟨[op], rfl, by simpa using calls.1⟩
    | some answer =>
      obtain ⟨later, whole, made⟩ := @ih answer s (⟨op, answer, s, s⟩ :: history)
        (calls.2 answer)
      refine ⟨op :: later, ?_, List.forall_mem_cons.mpr ⟨calls.1, made⟩⟩
      simp only [whole, List.map_cons, List.reverse_cons, List.append_assoc,
        List.singleton_append]

end Stall

/-! ### Programs behind the calls -/

/-- A function without variables of its own, each call of which runs another program. -/
def interpret (handle : (op : Op) → Program τ Op' Ans' ε (Ans op)) :
    Program Unit Op Ans ε α → Program τ Op' Ans' ε α
  | .ret value => .ret value
  | .fail error => .fail error
  | .read next => (next ()).interpret handle
  | .write _ next => next.interpret handle
  | .await op next => (handle op).attempt.bind fun answer => (next answer).interpret handle

@[simp] theorem pure_monad_bind {value : β} {f : β → Program σ Op Ans ε α} :
    (pure value : Program σ Op Ans ε β) >>= f = f value := rfl

section Interpret

variable {handle : (op : Op) → Program τ Op' Ans' ε (Ans op)}

@[simp] theorem interpret_fail {error : ε} :
    (fail error : Program Unit Op Ans ε α).interpret handle = fail error := rfl

end Interpret

end Program

end ModemStack.Async
