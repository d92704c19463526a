import ModemStack.Async.Program

/-!
An async function that nothing else runs beside.

A world answers each of its calls and changes with it, so that the function has one outcome.
-/

namespace ModemStack.Async.Program

variable {σ Op ω : Type} {Ans : Op → Type} {ε α β : Type}

/-- Run to the end. -/
def alone (world : (op : Op) → ω → Except ε (Ans op) × ω) :
    Program σ Op Ans ε α → σ → ω → Except ε α × σ × ω
  | .ret value, s, w => (.ok value, s, w)
  | .fail error, s, w => (.error error, s, w)
  | .read next, s, w => (next s).alone world s w
  | .write update next, s, w => next.alone world (update s) w
  | .await op next, s, w => (next (world op w).1).alone world s (world op w).2

/-- The calls it makes, each with the states it is made in. -/
def callsAlone (world : (op : Op) → ω → Except ε (Ans op) × ω) :
    Program σ Op Ans ε α → σ → ω → List (Op × σ × ω)
  | .ret _, _, _ => []
  | .fail _, _, _ => []
  | .read next, s, w => (next s).callsAlone world s w
  | .write update next, s, w => next.callsAlone world (update s) w
  | .await op next, s, w => (op, s, w) :: (next (world op w).1).callsAlone world s (world op w).2

section Rules

variable {world : (op : Op) → ω → Except ε (Ans op) × ω} {s : σ} {w : ω}

variable (value : α)

@[simp] theorem alone_ret :
    (ret value : Program σ Op Ans ε α).alone world s w = (.ok value, s, w) := rfl

@[simp] theorem alone_pure :
    (pure value : Program σ Op Ans ε α).alone world s w = (.ok value, s, w) := rfl

@[simp] theorem alone_fail (error : ε) :
    (fail error : Program σ Op Ans ε α).alone world s w = (.error error, s, w) := rfl

variable (p : Program σ Op Ans ε α)

variable (f : α → Program σ Op Ans ε β)

/-- What follows starts where the first part ended; a rejection ends the whole. -/
theorem alone_bind :
    (p.bind f).alone world s w = match p.alone world s w with
      | (.ok value, s', w') => (f value).alone world s' w'
      | (.error error, s', w') => (.error error, s', w') := by
  induction p generalizing s w with
  | ret => rfl
  | fail => rfl
  | read next ih => exact ih s
  | write update next ih => exact ih
  | await op next ih => exact ih _

@[simp] theorem alone_monad_bind :
    (p >>= f).alone world s w = match p.alone world s w with
      | (.ok value, s', w') => (f value).alone world s' w'
      | (.error error, s', w') => (.error error, s', w') := alone_bind p f

@[simp] theorem alone_perform (op : Op) :
    (perform op : Program σ Op Ans ε (Ans op)).alone world s w =
      ((world op w).1, s, (world op w).2) := by
  rw [perform, alone]
  cases (world op w).1 <;> rfl

@[simp] theorem alone_settle (op : Op) :
    (settle op : Program σ Op Ans ε (Except ε (Ans op))).alone world s w =
      (.ok (world op w).1, s, (world op w).2) := rfl

@[simp] theorem alone_ofExcept (outcome : Except ε α) :
    (ofExcept outcome : Program σ Op Ans ε α).alone world s w = (outcome, s, w) := by
  cases outcome <;> rfl

/-- A rejection that is caught leaves what it has left. -/
@[simp] theorem alone_attempt :
    p.attempt.alone world s w =
      (.ok (p.alone world s w).1, (p.alone world s w).2.1, (p.alone world s w).2.2) := by
  induction p generalizing s w with
  | ret => rfl
  | fail => rfl
  | read next ih => exact ih s
  | write update next ih => exact ih
  | await op next ih => exact ih _

@[simp] theorem alone_get : (get : Program σ Op Ans ε σ).alone world s w = (.ok s, s, w) := rfl

@[simp] theorem alone_modify (update : σ → σ) :
    (modify update : Program σ Op Ans ε Unit).alone world s w = (.ok (), update s, w) := rfl

@[simp] theorem callsAlone_ret :
    (ret value : Program σ Op Ans ε α).callsAlone world s w = [] := rfl

@[simp] theorem callsAlone_pure :
    (pure value : Program σ Op Ans ε α).callsAlone world s w = [] := rfl

@[simp] theorem callsAlone_fail (error : ε) :
    (fail error : Program σ Op Ans ε α).callsAlone world s w = [] := rfl

theorem callsAlone_bind :
    (p.bind f).callsAlone world s w = p.callsAlone world s w ++ match p.alone world s w with
      | (.ok value, s', w') => (f value).callsAlone world s' w'
      | (.error _, _, _) => [] := by
  induction p generalizing s w with
  | ret => rfl
  | fail => rfl
  | read next ih => exact ih s
  | write update next ih => exact ih
  | await op next ih => exact congrArg ((op, s, w) :: ·) (ih _)

@[simp] theorem callsAlone_monad_bind :
    (p >>= f).callsAlone world s w = p.callsAlone world s w ++ match p.alone world s w with
      | (.ok value, s', w') => (f value).callsAlone world s' w'
      | (.error _, _, _) => [] := callsAlone_bind p f

@[simp] theorem callsAlone_perform (op : Op) :
    (perform op : Program σ Op Ans ε (Ans op)).callsAlone world s w = [(op, s, w)] := by
  rw [perform, callsAlone]
  cases (world op w).1 <;> rfl

@[simp] theorem callsAlone_attempt : p.attempt.callsAlone world s w = p.callsAlone world s w := by
  induction p generalizing s w with
  | ret => rfl
  | fail => rfl
  | read next ih => exact ih s
  | write update next ih => exact ih
  | await op next ih => exact congrArg ((op, s, w) :: ·) (ih _)

@[simp] theorem callsAlone_get :
    (get : Program σ Op Ans ε σ).callsAlone world s w = [] := rfl

@[simp] theorem callsAlone_modify (update : σ → σ) :
    (modify update : Program σ Op Ans ε Unit).callsAlone world s w = [] := rfl

end Rules

end ModemStack.Async.Program
