import ModemStack.Async.CallTrace

/-!
Async functions that keep their state to themselves and whose calls are answered by what is called:
the outcome (`under`) and the calls (`callsUnder`) are then fixed, whatever else the loop does.
-/

namespace ModemStack.Async

variable {σ κ Op : Type} {Ans : Op → Type} {ε α β : Type}

namespace Program

-- what each call is answered
variable (answers : (op : Op) → Except ε (Ans op))

def under : Program Unit Op Ans ε α → Except ε α
  | .ret value => .ok value
  | .fail error => .error error
  | .read next => (next ()).under
  | .write _ next => next.under
  | .await op next => (next (answers op)).under

def callsUnder : Program Unit Op Ans ε α → List Op
  | .ret _ | .fail _ => []
  | .read next => (next ()).callsUnder
  | .write _ next => next.callsUnder
  | .await op next => op :: (next (answers op)).callsUnder

variable {answers}

theorem under_bind (p : Program Unit Op Ans ε β) (f : β → Program Unit Op Ans ε α) :
    (p.bind f).under answers = (p.under answers).bind fun value => (f value).under answers := by
  induction p with
  | ret => rfl
  | fail => rfl
  | read next ih => exact ih ()
  | write update next ih => exact ih
  | await op next ih => exact ih (answers op)

theorem under_monad_bind (p : Program Unit Op Ans ε β) (f : β → Program Unit Op Ans ε α) :
    (p >>= f).under answers = (p.under answers).bind fun value => (f value).under answers :=
  under_bind p f

theorem under_perform (op : Op) :
    (perform op : Program Unit Op Ans ε (Ans op)).under answers = answers op := by
  rw [perform, under]
  cases answers op <;> rfl

theorem under_ofExcept (outcome : Except ε α) :
    (ofExcept outcome : Program Unit Op Ans ε α).under answers = outcome := by
  cases outcome <;> rfl

theorem mem_callsUnder_bind {p : Program Unit Op Ans ε β} {f : β → Program Unit Op Ans ε α}
    {op : Op} : op ∈ (p.bind f).callsUnder answers ↔ op ∈ p.callsUnder answers ∨
      ∃ value, p.under answers = .ok value ∧ op ∈ (f value).callsUnder answers := by
  induction p with
  | ret | fail => simp [bind, callsUnder, under]
  | read next ih => exact ih ()
  | write update next ih => exact ih
  | await other next ih =>
    simp only [bind, callsUnder, under, List.mem_cons, ih (answers other), or_assoc]

/-- The calls are among those the function makes at all. -/
theorem Calls.callsUnder {Call : Op → Prop} {p : Program Unit Op Ans ε α} (calls : p.Calls Call)
    {op : Op} (mem : op ∈ p.callsUnder answers) : Call op := by
  induction p with
  | ret | fail => cases mem
  | read next ih => exact ih () (calls ()) mem
  | write update next ih => exact ih calls mem
  | await other next ih =>
    rcases List.mem_cons.mp mem with rfl | later
    · exact calls.1
    · exact ih (answers other) (calls.2 _) later

/-- On a loop that answers so, a hosted function makes these calls and has this outcome. -/
theorem meets_under {Inv : σ → Prop} {c : Contract σ Op Ans ε}
    {Done : Except ε α → σ → σ → Prop} (p : Program Unit Op Ans ε α) {begun s : σ} (inv : Inv s)
    (guarantee : ∀ begun s, c.guarantee begun s)
    (fair : ∀ s op answer, c.fair s op answer → answer = answers op)
    (calls : ∀ op ∈ p.callsUnder answers, ∀ s, c.call op s)
    (done : ∀ begun s, Inv s → Done (p.under answers) begun s) :
    (p.hosted perform ()).Meets Inv c Done begun s := by
  induction p generalizing begun s with
  | ret | fail => exact done begun s inv
  | read next ih => exact ih () inv calls done
  | write update next ih => exact ih inv calls done
  | await op next ih =>
    rw [hosted_perform_await]
    refine ⟨inv, guarantee begun s, fun now _ inv => ⟨calls op List.mem_cons_self now, ?_⟩⟩
    intro answer isFair
    rw [fair now op answer isFair]
    exact ih (answers op) inv (fun op mem => calls op (List.mem_cons_of_mem _ mem)) done

end Program

end ModemStack.Async
