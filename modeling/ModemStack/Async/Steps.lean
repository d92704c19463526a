import Mathlib.Data.List.Nodup
import Mathlib.Order.Nat

/-!
Runs of a machine that takes one event after another, with a condition on the events.
-/

namespace ModemStack.Async

variable {σ ε : Type} {step : σ → ε → σ} {Allowed : σ → ε → Prop} {Inv : σ → Prop}

/-- Each event of a run is allowed in the state it meets. -/
def AllowsEvents (step : σ → ε → σ) (Allowed : σ → ε → Prop) : σ → List ε → Prop
  | _, [] => True
  | s, event :: events => Allowed s event ∧ AllowsEvents step Allowed (step s event) events

variable {events : List ε}

variable {s : σ}

theorem allowsEvents_of_forall (allowed : ∀ event ∈ events, ∀ s, Allowed s event) :
    AllowsEvents step Allowed s events := by
  induction events generalizing s with
  | nil => trivial
  | cons event events ih =>
    refine ⟨allowed event List.mem_cons_self s, ih fun other mem => ?_⟩
    exact allowed other (List.mem_cons_of_mem event mem)

theorem AllowsEvents.mono {Allowed' : σ → ε → Prop}
    (weaker : ∀ s event, Allowed s event → Allowed' s event)
    (allowed : AllowsEvents step Allowed s events) : AllowsEvents step Allowed' s events := by
  induction events generalizing s with
  | nil => trivial
  | cons event events ih => exact ⟨weaker s event allowed.1, ih allowed.2⟩

/-- The end of a run is a run from where its beginning leads. -/
theorem AllowsEvents.of_append {before rest : List ε}
    (allowed : AllowsEvents step Allowed s (before ++ rest)) :
    AllowsEvents step Allowed (before.foldl step s) rest := by
  induction before generalizing s with
  | nil => exact allowed
  | cons event before ih => exact ih allowed.2

/-- Two conditions that agree wherever the invariant holds. -/
theorem allowsEvents_congr {Allowed' : σ → ε → Prop} (keeps : ∀ s event, Inv s → Inv (step s event))
    (same : ∀ s event, Inv s → (Allowed s event ↔ Allowed' s event)) (inv : Inv s) :
    AllowsEvents step Allowed s events ↔ AllowsEvents step Allowed' s events := by
  induction events generalizing s with
  | nil => rfl
  | cons event events ih => exact and_congr (same s event inv) (ih (keeps s event inv))

theorem foldl_keeps (keeps : ∀ s event, Inv s → Inv (step s event)) (inv : Inv s) :
    Inv (events.foldl step s) := by
  induction events generalizing s with
  | nil => exact inv
  | cons event events ih => exact ih (keeps s event inv)

theorem foldl_invariant (keeps : ∀ s event, Inv s → Allowed s event → Inv (step s event))
    (inv : Inv s) (allowed : AllowsEvents step Allowed s events) : Inv (events.foldl step s) := by
  induction events generalizing s with
  | nil => exact inv
  | cons event events ih => exact ih (keeps s event inv allowed.1) allowed.2

/-- A condition that each event keeps exactly when it is allowed, and that is not regained, holds
after exactly the runs whose events are all allowed. -/
theorem foldl_iff {Good : σ → Prop} (keeps : ∀ s event, Inv s → Inv (step s event))
    (exact : ∀ s event, Inv s → (Good (step s event) ↔ Good s ∧ Allowed s event)) (inv : Inv s) :
    Good (events.foldl step s) ↔ Good s ∧ AllowsEvents step Allowed s events := by
  induction events generalizing s with
  | nil => exact (and_iff_left trivial).symm
  | cons event events ih =>
    rw [List.foldl_cons, ih (keeps s event inv), exact s event inv, AllowsEvents, and_assoc]

/-- A condition that an event keeps exactly when it is allowed holds all along exactly the runs
whose events are all allowed. -/
theorem always_iff {Good : σ → Prop}
    (exact : ∀ s event, Good s → (Good (step s event) ↔ Allowed s event)) (good : Good s) :
    (∀ before, before <+: events → Good (before.foldl step s)) ↔
      AllowsEvents step Allowed s events := by
  induction events generalizing s with
  | nil =>
    refine iff_of_true (fun before isPrefix => ?_) trivial
    rw [List.prefix_nil.mp isPrefix]
    exact good
  | cons event events ih =>
    constructor
    · intro always
      have next : Good (step s event) := always [event] ⟨events, rfl⟩
      refine ⟨(exact s event good).mp next, (ih next).mp fun before isPrefix => ?_⟩
      exact always (event :: before) ((List.prefix_cons_inj event).mpr isPrefix)
    · rintro ⟨allowed, rest⟩ before isPrefix
      have next : Good (step s event) := (exact s event good).mpr allowed
      rcases List.prefix_cons_iff.mp isPrefix with rfl | ⟨before, rfl, isRest⟩
      · exact good
      · exact (ih next).mpr rest before isRest

/-! ### Runs without end -/

/-- The state after the first `n` events. -/
def stateAt (step : σ → ε → σ) (s : σ) (events : Nat → ε) : Nat → σ
  | 0 => s
  | n + 1 => step (stateAt step s events n) (events n)

theorem stateAt_keeps {events : Nat → ε} (keeps : ∀ s event, Inv s → Inv (step s event))
    (inv : Inv s) (n : Nat) : Inv (stateAt step s events n) := by
  induction n with
  | zero => exact inv
  | succ n ih => exact keeps _ _ ih

/-- What no event raises, and sooner or later some event lowers until the goal is reached, leads to
the goal. -/
theorem exists_of_lowered (Goal : σ → Prop) (measure : σ → Nat) {events : Nat → ε}
    (kept : ∀ n, measure (stateAt step s events (n + 1)) ≤ measure (stateAt step s events n))
    (lowered : ∀ n, ¬ Goal (stateAt step s events n) → ∃ m, n ≤ m ∧
      measure (stateAt step s events (m + 1)) < measure (stateAt step s events m)) :
    ∃ n, Goal (stateAt step s events n) := by
  have later {n m : Nat} (le : n ≤ m) :
      measure (stateAt step s events m) ≤ measure (stateAt step s events n) := by
    induction m, le using Nat.le_induction with
    | base => exact Nat.le_refl _
    | succ m _ ih => exact Nat.le_trans (kept m) ih
  have reached : ∀ k n, measure (stateAt step s events n) ≤ k →
      ∃ n, Goal (stateAt step s events n) := by
    intro k
    induction k with
    | zero =>
      intro n le
      by_contra never
      push Not at never
      obtain ⟨m, after, lt⟩ := lowered n (never n)
      have := later after
      omega
    | succ k ih =>
      intro n le
      by_cases goal : Goal (stateAt step s events n)
      · exact ⟨n, goal⟩
      · obtain ⟨m, after, lt⟩ := lowered n goal
        have := later after
        exact ih (m + 1) (by omega)
  exact reached _ 0 (Nat.le_refl _)

/-! ### What a machine emits along a run -/

section Emitted

variable {β : Type} {emit : σ → ε → List β}

def emitted (step : σ → ε → σ) (emit : σ → ε → List β) : σ → List ε → List β
  | _, [] => []
  | s, event :: events => emit s event ++ emitted step emit (step s event) events

/-- Nothing is emitted twice that is spent once it is emitted, and stays so. -/
theorem nodup_emitted (Inv : σ → Prop) (Spent : σ → β → Prop)
    (keeps : ∀ s event, Inv s → Inv (step s event))
    (distinct : ∀ s event, Inv s → (emit s event).Nodup)
    (fresh : ∀ s event b, Inv s → b ∈ emit s event → ¬ Spent s b)
    (spends : ∀ s event b, Inv s → b ∈ emit s event → Spent (step s event) b)
    (stays : ∀ s event b, Inv s → Spent s b → Spent (step s event) b) {s : σ} {events : List ε}
    (inv : Inv s) :
    (emitted step emit s events).Nodup ∧ ∀ b ∈ emitted step emit s events, ¬ Spent s b := by
  induction events generalizing s with
  | nil => exact ⟨List.nodup_nil, fun b mem => absurd mem List.not_mem_nil⟩
  | cons event events ih =>
    obtain ⟨later, unspent⟩ := ih (keeps s event inv)
    constructor
    · refine List.nodup_append.mpr ⟨distinct s event inv, later, ?_⟩
      rintro b now _ mem rfl
      exact unspent b mem (spends s event b inv now)
    · intro b mem spent
      rcases List.mem_append.mp mem with now | isLater
      · exact fresh s event b inv now spent
      · exact unspent b isLater (stays s event b inv spent)

end Emitted

end ModemStack.Async
