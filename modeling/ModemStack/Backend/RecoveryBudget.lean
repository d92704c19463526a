import Mathlib.Tactic.Common

/-!
The recovery budget: bounded attempts, a cooldown between them and the loop-stop latch.
-/

namespace ModemStack.Backend

structure RecoveryBudget where
  maxAttempts : Nat
  cooldownMs : Nat

def DEFAULT_RECOVERY_BUDGET : RecoveryBudget := ⟨2, 30000⟩

structure RecoveryBudgetState where
  attempts : Nat
  degraded : Bool
  lastAttemptAt : Option Int
deriving DecidableEq

def INITIAL_BUDGET_STATE : RecoveryBudgetState := ⟨0, false, none⟩

inductive BudgetDecision where
  | proceed (state : RecoveryBudgetState)
  | cooldown (state : RecoveryBudgetState) (retryAfter : Int)
  | loopStop (state : RecoveryBudgetState)
deriving DecidableEq

def BudgetDecision.state : BudgetDecision → RecoveryBudgetState
  | .proceed state | .cooldown state _ | .loopStop state => state

/-- Whether `now` falls into the cooldown of the last attempt, and when that ends. -/
def RecoveryBudgetState.cooling (state : RecoveryBudgetState) (budget : RecoveryBudget) (now : Int) :
    Option Int :=
  match state.lastAttemptAt with
  | none => none
  | some last => if now - last < budget.cooldownMs then some (last + budget.cooldownMs) else none

def beginAttempt (state : RecoveryBudgetState) (budget : RecoveryBudget) (now : Int) :
    BudgetDecision :=
  if state.degraded then .loopStop state
  else
    match state.cooling budget now with
    | some retryAfter => .cooldown state retryAfter
    | none =>
      if budget.maxAttempts ≤ state.attempts then .loopStop { state with degraded := true }
      else .proceed ⟨state.attempts + 1, false, some now⟩

def markRecovered : RecoveryBudgetState := INITIAL_BUDGET_STATE

namespace RecoveryBudgetState

variable {state next : RecoveryBudgetState} {budget : RecoveryBudget} {now retryAfter : Int}

/-- An attempt proceeds below the limit and at a distance from the last one. -/
theorem proceeds (decides : beginAttempt state budget now = .proceed next) :
    state.degraded = false ∧ state.attempts < budget.maxAttempts ∧
      (∀ last, state.lastAttemptAt = some last → last + budget.cooldownMs ≤ now) ∧
      next = ⟨state.attempts + 1, false, some now⟩ := by
  unfold beginAttempt at decides
  split at decides
  · cases decides
  · next alive =>
    split at decides
    · cases decides
    · next warm =>
      split at decides
      · cases decides
      · next left =>
        cases decides
        refine ⟨by simpa using alive, Nat.lt_of_not_le left, ?_, rfl⟩
        intro last isLast
        simp only [cooling, isLast] at warm
        split at warm
        · cases warm
        · omega

theorem loopStops (decides : beginAttempt state budget now = .loopStop next) :
    next = { state with degraded := true } := by
  unfold beginAttempt at decides
  split at decides
  · next degraded =>
    cases decides
    rw [← degraded]
  · split at decides
    · cases decides
    · split at decides
      · cases decides
        rfl
      · cases decides

theorem cools (decides : beginAttempt state budget now = .cooldown next retryAfter) :
    state.degraded = false ∧ next = state := by
  unfold beginAttempt at decides
  split at decides
  · cases decides
  · next alive =>
    split at decides
    · cases decides
      exact ⟨by simpa using alive, rfl⟩
    · split at decides <;> cases decides

end RecoveryBudgetState

/-- What a decision of the budget leaves. -/
structure Decides (state : RecoveryBudgetState) (budget : RecoveryBudget) (now : Int)
    (decision : BudgetDecision) : Prop where
  attempts : decision.state.attempts =
    state.attempts + if decision matches .proceed _ then 1 else 0
  last : ∀ last, state.lastAttemptAt = some last →
    ∃ last', decision.state.lastAttemptAt = some last' ∧ last ≤ last'
  proceeds : ∀ next, decision = .proceed next → next.lastAttemptAt = some now ∧
    state.attempts < budget.maxAttempts ∧
    ∀ last, state.lastAttemptAt = some last → last + budget.cooldownMs ≤ now
  stopped : ∀ next, decision = .loopStop next → next.degraded
  latched : state.degraded → ∃ next, decision = .loopStop next

theorem decides_beginAttempt (state : RecoveryBudgetState) (budget : RecoveryBudget) (now : Int) :
    Decides state budget now (beginAttempt state budget now) := by
  cases decision : beginAttempt state budget now with
  | proceed next =>
    obtain ⟨alive, left, cool, rfl⟩ := RecoveryBudgetState.proceeds decision
    constructor
    · rfl
    · intro last isLast
      have := cool last isLast
      exact ⟨now, rfl, by omega⟩
    · rintro next ⟨⟩
      exact ⟨rfl, left, cool⟩
    · nofun
    · intro degraded
      rw [alive] at degraded
      exact nomatch degraded
  | cooldown =>
    obtain ⟨alive, rfl⟩ := RecoveryBudgetState.cools decision
    constructor
    · rfl
    · exact fun last isLast => ⟨last, isLast, Int.le_refl last⟩
    · nofun
    · nofun
    · intro degraded
      rw [alive] at degraded
      exact nomatch degraded
  | loopStop next =>
    obtain rfl := RecoveryBudgetState.loopStops decision
    constructor
    · rfl
    · exact fun last isLast => ⟨last, isLast, Int.le_refl last⟩
    · nofun
    · rintro next ⟨⟩
      rfl
    · exact fun _ => ⟨_, rfl⟩

end ModemStack.Backend
