import ModemStack.Async.Program

/-!
Async functions that keep their state to themselves.

The variables of a closure are written by no other task, so the function finds
them at every await as it left them. What it meets is a `World`: the answer to
each call, given the answers so far. `drive` runs such a function to its end,
which it always has; `Ends` is the proof rule for it, and `Calls` bounds the
calls it makes.
-/

namespace ModemStack.Async

variable {σ Op : Type} {Ans : Op → Type} {ε α β : Type}

/-- What every call is answered, given the answers so far (latest first). -/
abbrev World (σ Op : Type) (Ans : Op → Type) (ε : Type) : Type :=
  List (Event σ Op Ans ε) → (op : Op) → Except ε (Ans op)

/-- A run from start to end. -/
structure Run (σ Op : Type) (Ans : Op → Type) (ε α : Type) where
  outcome : Except ε α
  state : σ
  history : List (Event σ Op Ans ε)

namespace Program

/-- Run a function to its end. -/
def drive (world : World σ Op Ans ε) :
    Program σ Op Ans ε α → σ → List (Event σ Op Ans ε) → Run σ Op Ans ε α
  | .ret value, s, history => ⟨.ok value, s, history⟩
  | .fail error, s, history => ⟨.error error, s, history⟩
  | .read next, s, history => (next s).drive world s history
  | .write update next, s, history => next.drive world (update s) history
  | .await op next, s, history =>
    (next (world history op)).drive world s (⟨op, world history op, s, s⟩ :: history)

/-- However its calls are answered, the function ends in `Done`. -/
def Ends (Done : List (Event σ Op Ans ε) → Except ε α → σ → Prop) :
    Program σ Op Ans ε α → σ → List (Event σ Op Ans ε) → Prop
  | .ret value, s, history => Done history (.ok value) s
  | .fail error, s, history => Done history (.error error) s
  | .read next, s, history => (next s).Ends Done s history
  | .write update next, s, history => next.Ends Done (update s) history
  | .await op next, s, history =>
    ∀ answer, (next answer).Ends Done s (⟨op, answer, s, s⟩ :: history)

/-- Every call the function can make meets `Call`. -/
def Calls (Call : Op → Prop) : Program σ Op Ans ε α → Prop
  | .ret _ | .fail _ => True
  | .read next => ∀ s, (next s).Calls Call
  | .write _ next => next.Calls Call
  | .await op next => Call op ∧ ∀ answer, (next answer).Calls Call

/-- Every value the function can return meets `Value`. -/
def Returns (Value : α → Prop) : Program σ Op Ans ε α → Prop
  | .ret value => Value value
  | .fail _ => True
  | .read next => ∀ s, (next s).Returns Value
  | .write _ next => next.Returns Value
  | .await _ next => ∀ answer, (next answer).Returns Value

section Rules

variable {Done : List (Event σ Op Ans ε) → Except ε α → σ → Prop}
  {s : σ} {history : List (Event σ Op Ans ε)}

variable {p : Program σ Op Ans ε α}

/-- What `Ends` says holds of every run. -/
theorem Ends.drive (ends : p.Ends Done s history) (world : World σ Op Ans ε) :
    Done (p.drive world s history).history (p.drive world s history).outcome
      (p.drive world s history).state := by
  induction p generalizing s history with
  | ret | fail => exact ends
  | read next ih => exact ih s ends
  | write update next ih => exact ih ends
  | await op next ih => exact ih _ (ends (world history op))

variable {Done' : List (Event σ Op Ans ε) → Except ε α → σ → Prop}

/-- The rule of consequence. -/
theorem Ends.mono (ends : p.Ends Done s history)
    (done : ∀ history outcome s, Done history outcome s → Done' history outcome s) :
    p.Ends Done' s history := by
  induction p generalizing s history with
  | ret | fail => exact done _ _ _ ends
  | read next ih => exact ih s ends
  | write update next ih => exact ih ends
  | await op next ih => exact fun answer => ih answer (ends answer)

theorem ends_of_forall (done : ∀ history outcome s, Done history outcome s) :
    p.Ends Done s history := by
  induction p generalizing s history with
  | ret | fail => exact done _ _ _
  | read next ih => exact ih s
  | write update next ih => exact ih
  | await op next ih => exact fun answer => ih answer

theorem ends_congr (same : ∀ history outcome s, Done history outcome s ↔ Done' history outcome s) :
    p.Ends Done s history ↔ p.Ends Done' s history :=
  ⟨fun ends => ends.mono fun history outcome s => (same history outcome s).mp,
    fun ends => ends.mono fun history outcome s => (same history outcome s).mpr⟩

@[simp] theorem ends_pure {value : α} :
    (pure value : Program σ Op Ans ε α).Ends Done s history ↔ Done history (.ok value) s := Iff.rfl

theorem ends_bind {p : Program σ Op Ans ε β} {f : β → Program σ Op Ans ε α} :
    (p.bind f).Ends Done s history ↔
      p.Ends (fun history outcome s => OnOutcome
        (fun value => (f value).Ends Done s history)
        (fun error => Done history (.error error) s) outcome) s history := by
  induction p generalizing s history with
  | ret => rfl
  | fail => rfl
  | read next ih => exact ih s
  | write update next ih => exact ih
  | await op next ih =>
    simp only [bind, Ends]
    exact forall_congr' fun answer => ih answer

@[simp] theorem ends_monad_bind {p : Program σ Op Ans ε β} {f : β → Program σ Op Ans ε α} :
    (p >>= f).Ends Done s history ↔
      p.Ends (fun history outcome s => OnOutcome
        (fun value => (f value).Ends Done s history)
        (fun error => Done history (.error error) s) outcome) s history := ends_bind

theorem ends_attempt {Done : List (Event σ Op Ans ε) → Except ε (Except ε α) → σ → Prop} :
    p.attempt.Ends Done s history ↔
      p.Ends (fun history outcome s => Done history (.ok outcome) s) s history := by
  induction p generalizing s history with
  | ret => rfl
  | fail => rfl
  | read next ih => exact ih s
  | write update next ih => exact ih
  | await op next ih =>
    simp only [attempt, Ends]
    exact forall_congr' fun answer => ih answer

theorem ends_ofExcept {outcome : Except ε α} :
    (ofExcept outcome : Program σ Op Ans ε α).Ends Done s history ↔ Done history outcome s := by
  cases outcome <;> rfl

@[simp] theorem ends_catch {handler : ε → Program σ Op Ans ε α} :
    (p.catch handler).Ends Done s history ↔
      p.Ends (fun history outcome s => OnOutcome
        (fun value => Done history (.ok value) s)
        (fun error => (handler error).Ends Done s history) outcome) s history := by
  rw [«catch», ends_bind, ends_attempt]
  refine ends_congr fun history outcome s => ?_
  cases outcome <;> rfl

@[simp] theorem ends_ensuring {cleanup : Program σ Op Ans ε Unit} :
    (p.ensuring cleanup).Ends Done s history ↔
      p.Ends (fun history outcome s =>
        cleanup.Ends (fun history cleaned s => OnOutcome
          (fun _ => Done history outcome s)
          (fun error => Done history (.error error) s) cleaned) s history) s history := by
  rw [ensuring, ends_bind, ends_attempt]
  simp only [onOutcome_ok, ends_bind, ends_ofExcept]

@[simp] theorem ends_perform {op : Op}
    {Done : List (Event σ Op Ans ε) → Except ε (Ans op) → σ → Prop} :
    (perform op).Ends Done s history ↔
      ∀ answer, Done (⟨op, answer, s, s⟩ :: history) answer s := by
  refine forall_congr' fun answer => ?_
  cases answer <;> rfl

@[simp] theorem ends_get {Done : List (Event σ Op Ans ε) → Except ε σ → σ → Prop} :
    (get : Program σ Op Ans ε σ).Ends Done s history ↔ Done history (.ok s) s := Iff.rfl

@[simp] theorem ends_modify {update : σ → σ}
    {Done : List (Event σ Op Ans ε) → Except ε Unit → σ → Prop} :
    (modify update).Ends Done s history ↔ Done history (.ok ()) (update s) := Iff.rfl

theorem ends_ite {c : Prop} [Decidable c] {p q : Program σ Op Ans ε α}
    (left : c → p.Ends Done s history) (right : ¬ c → q.Ends Done s history) :
    (if c then p else q).Ends Done s history := by
  split
  · next holds => exact left holds
  · next fails => exact right fails

theorem Ends.and (left : p.Ends Done s history) (right : p.Ends Done' s history) :
    p.Ends (fun history outcome s => Done history outcome s ∧ Done' history outcome s)
      s history := by
  induction p generalizing s history with
  | ret | fail => exact ⟨left, right⟩
  | read next ih => exact ih s left right
  | write update next ih => exact ih left right
  | await op next ih => exact fun answer => ih answer (left answer) (right answer)

end Rules

/-! ### Which calls are made -/

section Calls

variable {Call : Op → Prop}

@[simp] theorem calls_pure {value : α} : (pure value : Program σ Op Ans ε α).Calls Call := trivial

@[simp] theorem calls_fail {error : ε} : (fail error : Program σ Op Ans ε α).Calls Call := trivial

variable {f : β → Program σ Op Ans ε α} {p : Program σ Op Ans ε β}

theorem Calls.bind (first : p.Calls Call) (rest : ∀ value, (f value).Calls Call) :
    (p.bind f).Calls Call := by
  induction p with
  | ret value => exact rest value
  | fail => trivial
  | read next ih => exact fun s => ih s (first s)
  | write update next ih => exact ih first
  | await op next ih => exact ⟨first.1, fun answer => ih answer (first.2 answer)⟩

theorem Calls.attempt {p : Program σ Op Ans ε α} (calls : p.Calls Call) : p.attempt.Calls Call := by
  induction p with
  | ret => trivial
  | fail => trivial
  | read next ih => exact fun s => ih s (calls s)
  | write update next ih => exact ih calls
  | await op next ih => exact ⟨calls.1, fun answer => ih answer (calls.2 answer)⟩

theorem Calls.advance {p : Program σ Op Ans ε α} {s : σ} (calls : p.Calls Call) :
    (p.advance s).1.Calls Call := by
  induction p generalizing s with
  | read next ih => exact ih s (calls s)
  | write update next ih => exact ih calls
  | _ => exact calls

theorem Calls.andThen (first : p.Calls Call) (rest : ∀ value, (f value).Calls Call) :
    (p >>= f).Calls Call :=
  first.bind rest

theorem Returns.bind {Value : α → Prop} (rest : ∀ value, (f value).Returns Value) :
    (p >>= f).Returns Value := by
  change (Program.bind p f).Returns Value
  induction p with
  | ret value => exact rest value
  | fail => trivial
  | read next ih => exact fun s => ih s
  | write update next ih => exact ih
  | await op next ih => exact fun answer => ih answer

/-- Of what follows a function only the values it can return matter. -/
theorem Calls.andThenOf {Value : β → Prop} (first : p.Calls Call) (returns : p.Returns Value)
    (rest : ∀ value, Value value → (f value).Calls Call) : (p >>= f).Calls Call := by
  change (Program.bind p f).Calls Call
  induction p with
  | ret value => exact rest value returns
  | fail => trivial
  | read next ih => exact fun s => ih s (first s) (returns s)
  | write update next ih => exact ih first returns
  | await op next ih => exact ⟨first.1, fun answer => ih answer (first.2 answer) (returns answer)⟩

theorem calls_ite {c : Prop} [Decidable c] {p q : Program σ Op Ans ε α} (left : p.Calls Call)
    (right : q.Calls Call) : (if c then p else q).Calls Call := by
  split
  · exact left
  · exact right

theorem Calls.catch {p : Program σ Op Ans ε α} {handler : ε → Program σ Op Ans ε α}
    (body : p.Calls Call) (handled : ∀ error, (handler error).Calls Call) :
    (p.catch handler).Calls Call := by
  refine body.attempt.bind fun outcome => ?_
  cases outcome with
  | ok => trivial
  | error error => exact handled error

theorem Calls.ensuring {p : Program σ Op Ans ε α} {cleanup : Program σ Op Ans ε Unit}
    (body : p.Calls Call) (cleaned : cleanup.Calls Call) : (p.ensuring cleanup).Calls Call := by
  refine body.attempt.bind fun outcome => cleaned.bind fun _ => ?_
  cases outcome <;> trivial

theorem calls_perform {op : Op} (call : Call op) :
    (perform op : Program σ Op Ans ε (Ans op)).Calls Call := by
  refine ⟨call, fun answer => ?_⟩
  cases answer <;> trivial

theorem calls_yield {op : Op} (call : Call op) : (yield op : Program σ Op Ans ε Unit).Calls Call :=
  ⟨call, fun _ => trivial⟩

theorem calls_get : (get : Program σ Op Ans ε σ).Calls Call := fun _ => trivial

theorem calls_modify {update : σ → σ} :
    (modify update : Program σ Op Ans ε Unit).Calls Call := trivial

end Calls

/-! ### Invariants -/

/-- Wherever it is started in a state that meets `Inv`, the function ends in one. -/
def Keeps (Inv : List (Event σ Op Ans ε) → σ → Prop) (p : Program σ Op Ans ε α) : Prop :=
  ∀ s history, Inv history s → p.Ends (fun history _ s => Inv history s) s history

section Keeps

variable {Inv : List (Event σ Op Ans ε) → σ → Prop}

theorem keeps_pure {value : α} : (pure value : Program σ Op Ans ε α).Keeps Inv :=
  fun _ _ inv => inv

theorem keeps_fail {error : ε} : (fail error : Program σ Op Ans ε α).Keeps Inv :=
  fun _ _ inv => inv

theorem Keeps.bind {p : Program σ Op Ans ε β} {f : β → Program σ Op Ans ε α}
    (first : p.Keeps Inv) (rest : ∀ value, (f value).Keeps Inv) : (p >>= f).Keeps Inv := by
  intro s history inv
  refine ends_monad_bind.mpr ((first s history inv).mono fun history outcome s inv => ?_)
  cases outcome with
  | ok value => exact rest value s history inv
  | error => exact inv

theorem keeps_ite {c : Prop} [Decidable c] {p q : Program σ Op Ans ε α} (left : p.Keeps Inv)
    (right : q.Keeps Inv) : (if c then p else q).Keeps Inv := by
  split
  · exact left
  · exact right

theorem Keeps.catch {p : Program σ Op Ans ε α} {handler : ε → Program σ Op Ans ε α}
    (body : p.Keeps Inv) (handled : ∀ error, (handler error).Keeps Inv) :
    (p.catch handler).Keeps Inv := by
  intro s history inv
  refine ends_catch.mpr ((body s history inv).mono fun history outcome s inv => ?_)
  cases outcome with
  | ok => exact inv
  | error error => exact handled error s history inv

theorem keeps_perform {op : Op}
    (kept : ∀ s history answer, Inv history s → Inv (⟨op, answer, s, s⟩ :: history) s) :
    (perform op : Program σ Op Ans ε (Ans op)).Keeps Inv :=
  fun s history inv => ends_perform.mpr fun answer => kept s history answer inv

theorem keeps_yield {op : Op}
    (kept : ∀ s history answer, Inv history s → Inv (⟨op, answer, s, s⟩ :: history) s) :
    (yield op : Program σ Op Ans ε Unit).Keeps Inv :=
  fun s history inv answer => kept s history answer inv

theorem keeps_modify {update : σ → σ} (kept : ∀ s history, Inv history s → Inv history (update s)) :
    (modify update : Program σ Op Ans ε Unit).Keeps Inv :=
  kept

/-- A fact about the history alone is kept by the calls that keep it. -/
theorem Calls.keeps {Call : Op → Prop} {Inv : List (Event σ Op Ans ε) → Prop}
    {p : Program σ Op Ans ε α} (calls : p.Calls Call)
    (kept : ∀ {op}, Call op → ∀ s history answer, Inv history →
      Inv (⟨op, answer, s, s⟩ :: history)) : p.Keeps fun history _ => Inv history := by
  intro s history inv
  induction p generalizing s history with
  | ret | fail => exact inv
  | read next ih => exact ih s (calls s) s history inv
  | write update next ih => exact ih calls (update s) history inv
  | await op next ih =>
    exact fun answer => ih answer (calls.2 answer) s _ (kept calls.1 s history answer inv)

end Keeps

end Program

end ModemStack.Async
