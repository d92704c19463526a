/-!
Async functions that run alone on a clock.

What they await settles after a time, or never does. A function ends with a value, with a
rejection, or hangs; between two awaits no time passes.
-/

namespace ModemStack.Async

/-- When something that is awaited settles, and how. -/
inductive Promise (ε α : Type) where
  | resolves (ms : Nat) (value : α)
  | rejects (ms : Nat) (error : ε)
  | never

/-- The delay that a timer makes of a number of milliseconds. -/
def timerDelay (ms : Nat) : Nat := if 1 ≤ ms ∧ ms ≤ 2147483647 then ms else 1

/-- `Promise.race` of a promise with a timer that rejects. -/
def withTimeout {ε α : Type} (promise : Promise ε α) (ms : Nat) (error : ε) : Promise ε α :=
  match promise with
  | .resolves after _ => if after ≤ timerDelay ms then promise else .rejects (timerDelay ms) error
  | .rejects after _ => if after ≤ timerDelay ms then promise else .rejects (timerDelay ms) error
  | .never => .rejects (timerDelay ms) error

/-- The time, and what else the function and those it calls can see. -/
structure Clock (σ : Type) where
  now : Nat
  rest : σ

inductive Ended (ε α : Type) where
  | value (value : α)
  | thrown (error : ε)
  | hangs

def Timed (σ ε α : Type) : Type := Clock σ → Ended ε α × Clock σ

namespace Timed

variable {σ ε α β : Type}

def bind (first : Timed σ ε α) (next : α → Timed σ ε β) : Timed σ ε β := fun s =>
  match first s with
  | (.value value, s) => next value s
  | (.thrown error, s) => (.thrown error, s)
  | (.hangs, s) => (.hangs, s)

instance : Monad (Timed σ ε) where
  pure value := fun s => (.value value, s)
  bind := bind

def now : Timed σ ε Nat := fun s => (.value s.now, s)

def get : Timed σ ε σ := fun s => (.value s.rest, s)

def modify (update : σ → σ) : Timed σ ε Unit := fun s =>
  (.value (), { s with rest := update s.rest })

/-- `await promise` -/
def settle (promise : Promise ε α) : Timed σ ε α := fun s =>
  match promise with
  | .resolves ms value => (.value value, { s with now := s.now + ms })
  | .rejects ms error => (.thrown error, { s with now := s.now + ms })
  | .never => (.hangs, s)

/-- `await new Promise((resolve) => setTimeout(resolve, ms))` -/
def sleep (ms : Nat) : Timed σ ε Unit := settle (.resolves (timerDelay ms) ())

/-- The body of a `try`, its rejection taken as a value. -/
def attempt (body : Timed σ ε α) : Timed σ ε (Except ε α) := fun s =>
  match body s with
  | (.value value, s) => (.value (.ok value), s)
  | (.thrown error, s) => (.value (.error error), s)
  | (.hangs, s) => (.hangs, s)

section Rules

variable {first : Timed σ ε α} {next : α → Timed σ ε β} {s s' : Clock σ}

@[simp] theorem get_run : (get : Timed σ ε σ) s = (.value s.rest, s) := rfl

theorem bind_run : (first >>= next) s = match first s with
    | (.value value, s) => next value s
    | (.thrown error, s) => (.thrown error, s)
    | (.hangs, s) => (.hangs, s) := rfl

theorem bind_value {value : α} (ends : first s = (.value value, s')) :
    (first >>= next) s = next value s' := by
  rw [bind_run, ends]

end Rules

/-! ### What every run of a function keeps or tells -/

section Laws

variable {body : Timed σ ε α} {next : α → Timed σ ε β} {γ : Type} {view : σ → γ} {Good : σ → Prop}

/-- The function leaves what is viewed as it was. -/
def Preserves (view : σ → γ) (body : Timed σ ε α) : Prop := ∀ s, view (body s).2.rest = view s.rest

/-- The state tells whether the function has settled. -/
def Settles (Good : σ → Prop) (body : Timed σ ε α) : Prop :=
  ∀ s, Good s.rest → ((body s).1 ≠ .hangs ↔ Good (body s).2.rest)

/-- The state tells whether the function has resolved. -/
def Resolves (Good : σ → Prop) (body : Timed σ ε α) : Prop :=
  ∀ s, Good s.rest → ((∃ value, (body s).1 = .value value) ↔ Good (body s).2.rest)

theorem Preserves.bind (first : Preserves view body) (rest : ∀ value, Preserves view (next value)) :
    Preserves view (body >>= next) := by
  intro s
  have kept := first s
  rw [bind_run]
  generalize body s = ended at kept ⊢
  rcases ended with ⟨value | error | -, s'⟩
  · exact (rest value s').trans kept
  · exact kept
  · exact kept

theorem Preserves.attempt (kept : Preserves view body) : Preserves view body.attempt := by
  intro s
  have kept := kept s
  rw [Timed.attempt]
  generalize body s = ended at kept ⊢
  rcases ended with ⟨value | error | -, s'⟩
  · exact kept
  · exact kept
  · exact kept

theorem Settles.bind (first : Settles Good body) (rest : ∀ value, Settles Good (next value)) :
    Settles Good (body >>= next) := by
  intro s good
  have told := first s good
  rw [bind_run]
  generalize body s = ended at told ⊢
  rcases ended with ⟨value | error | -, s'⟩
  · exact rest value s' (told.mp nofun)
  · exact iff_of_true nofun (told.mp nofun)
  · exact iff_of_false (fun settles => settles rfl) fun good => told.mpr good rfl

theorem Settles.attempt (told : Settles Good body) : Resolves Good body.attempt := by
  intro s good
  have told := told s good
  rw [Timed.attempt]
  generalize body s = ended at told ⊢
  rcases ended with ⟨value | error | -, s'⟩
  · exact iff_of_true ⟨_, rfl⟩ (told.mp nofun)
  · exact iff_of_true ⟨_, rfl⟩ (told.mp nofun)
  · exact iff_of_false nofun fun good => told.mpr good rfl

theorem Resolves.bind (first : Resolves Good body) (rest : ∀ value, Resolves Good (next value)) :
    Resolves Good (body >>= next) := by
  intro s good
  have told := first s good
  rw [bind_run]
  generalize body s = ended at told ⊢
  rcases ended with ⟨value | error | -, s'⟩
  · exact rest value s' (told.mp ⟨value, rfl⟩)
  · exact iff_of_false nofun fun good => nomatch told.mpr good
  · exact iff_of_false nofun fun good => nomatch told.mpr good

/-- A function that resolves whatever it meets. -/
theorem Resolves.of_value (resolves : ∀ s, ∃ value, (body s).1 = .value value)
    (kept : ∀ s, Good s.rest → Good (body s).2.rest) : Resolves Good body :=
  fun s good => iff_of_true (resolves s) (kept s good)

theorem Resolves.pure (value : α) : Resolves Good (pure value : Timed σ ε α) :=
  .of_value (fun _ => ⟨value, rfl⟩) fun _ => id

theorem Settles.of_value (resolves : ∀ s, ∃ value, (body s).1 = .value value)
    (kept : ∀ s, Good s.rest → Good (body s).2.rest) : Settles Good body := by
  intro s good
  obtain ⟨value, isValue⟩ := resolves s
  exact iff_of_true (isValue ▸ nofun) (kept s good)

end Laws

end Timed

end ModemStack.Async
