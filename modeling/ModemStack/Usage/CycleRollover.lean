import ModemStack.Text.DoubleOrder
import ModemStack.Usage.Sampler

/-!
The cycle that an account is in after a pass that observed its slot.

An account enters a new cycle when a counter of its slot is read, also where sampling is paused.
An observation without a counter leaves the account where it is; `pass_current_iff` says when that
is no earlier cycle.
-/

namespace ModemStack.Usage

open ModemStack.Data ModemStack.Domain ModemStack.Text

/-! ### Runs -/

/-- Bytes added to an account, and the cycle it was in when they were. -/
structure Share where
  cycle : Double
  bytes : Rat

/-- What the passes work on. Recorded beside it: what was added to each slot, newest first. -/
structure Recorded where
  state : UsageSamplingState
  shares : JsString → List Share

inductive UsageEvent where
  | pass (pass : SamplingPass)
  | policy (slotId : JsString) (usage : DesiredUsage) (now : Nat)

namespace Recorded

/-- The bytes of the accounts a run begins with are shares of their cycles. -/
def initial (state : UsageSamplingState) : Recorded where
  state := state
  shares slotId := (state.accounts.get slotId).toList.map fun account =>
    ⟨account.cycleStartMs, account.cycleBytes⟩

def share (r : Recorded) (counters : Counters) (now : Nat) (observation : UsageObservation) :
    Share :=
  let sight := r.state.sight counters now observation
  ⟨(account (r.state.accounts.get observation.logicalSlotId) sight).cycleStartMs,
    r.state.added ⟨counters, now, now⟩ observation⟩

def see (counters : Counters) (now : Nat) (r : Recorded) (observation : UsageObservation) :
    Recorded where
  state := applyUsageSample counters now r.state observation
  shares :=
    if counters.get observation.ifname = none then r.shares
    else Function.update r.shares observation.logicalSlotId
      (r.share counters now observation :: r.shares observation.logicalSlotId)

def step (r : Recorded) : UsageEvent → Recorded
  | .pass pass => pass.observations.foldl (see pass.counters pass.now) r
  | .policy slotId usage now => { r with state := (applyPolicy r.state slotId usage now).1 }

def run (state : UsageSamplingState) (events : List UsageEvent) : Recorded :=
  events.foldl step (initial state)

end Recorded

/-- The cycle that a slot is in by the clock. -/
def UsageSamplingState.cycleAt (state : UsageSamplingState) (now : Nat)
    (observation : UsageObservation) : Double :=
  let usage := (state.policyOverrides.get observation.logicalSlotId).getD observation.usage
  cycleStart now (usage.cycleDay.getD state.defaultCycleDay)

/-- The slot's account is in no cycle before the clock's, and its bytes are the newest of the
slot's shares, of no cycle before the clock's. -/
def Recorded.Current (r : Recorded) (now : Nat) (observation : UsageObservation) : Prop :=
  let cycle := r.state.cycleAt now observation
  ∃ account, r.state.accounts.get observation.logicalSlotId = some account ∧
    account.cycleStartMs.lt cycle = false ∧
      ∃ recent older, r.shares observation.logicalSlotId = recent ++ older ∧
        (recent.map Share.bytes).sum = account.cycleBytes ∧
          ∀ share ∈ recent, share.cycle.lt cycle = false

/-- The cycle in which a pass finds a slot: its account's, or, where there is none, that of the
pass's first observation of it. -/
def UsageSamplingState.found (state : UsageSamplingState) (pass : SamplingPass)
    (slotId : JsString) : Option Double :=
  ((state.accounts.get slotId).map SlotAccount.cycleStartMs).or
    ((pass.observations.find? fun observation => observation.logicalSlotId = slotId).map
      (state.cycleAt pass.now))

/-- The pass finds the slot in no earlier cycle, or reads another counter for it and moves it on. -/
def UsageSamplingState.MovesOn (state : UsageSamplingState) (pass : SamplingPass)
    (observation : UsageObservation) : Prop :=
  let cycle := state.cycleAt pass.now observation
  (∀ start, state.found pass observation.logicalSlotId = some start → start.lt cycle = false) ∨
    ∃ other ∈ pass.observations, other.logicalSlotId = observation.logicalSlotId ∧
      pass.counters.get other.ifname ≠ none ∧
        cycle.le (state.cycleAt pass.now other) = true

/-! ### Shares -/

/-- The newest of `shares` are the account's bytes, all of them of its cycle. -/
def SlotAccount.BackedBy (account : SlotAccount) (shares : List Share) : Prop :=
  ∃ recent older, shares = recent ++ older ∧
    (recent.map Share.bytes).sum = account.cycleBytes ∧
      ∀ share ∈ recent, share.cycle = account.cycleStartMs

namespace SlotAccount.BackedBy

variable {account : SlotAccount} {shares : List Share}

theorem empty (shares : List Share) (start : Double) :
    (initialAccount start).BackedBy shares := ⟨[], shares, rfl, rfl, nofun⟩

theorem zero (noBytes : account.cycleBytes = 0) : account.BackedBy shares :=
  ⟨[], shares, rfl, noBytes.symm, nofun⟩

theorem rollCycle (backed : account.BackedBy shares) (start : Double) :
    (rollCycle account start).BackedBy shares := by
  unfold Usage.rollCycle
  split
  · exact zero rfl
  · exact backed

theorem cons (backed : account.BackedBy shares) {after : SlotAccount} {added : Rat}
    (start : after.cycleStartMs = account.cycleStartMs)
    (bytes : after.cycleBytes = account.cycleBytes + added) :
    after.BackedBy (⟨after.cycleStartMs, added⟩ :: shares) := by
  obtain ⟨recent, older, rfl, sum, inCycle⟩ := backed
  refine ⟨⟨after.cycleStartMs, added⟩ :: recent, older, rfl, ?_, ?_⟩
  · rw [List.map_cons, List.sum_cons, sum, bytes]
    exact add_comm _ _
  · intro share mem
    rcases List.mem_cons.mp mem with rfl | mem
    · rfl
    · exact (inCycle share mem).trans start.symm

end SlotAccount.BackedBy

/-- A reading moves the account on to its cycle, whatever else it comes to. -/
theorem start_account_read {sight : Sight} {current : Rat} (read : sight.current = some current)
    (prior : Option SlotAccount) : (account prior sight).cycleStartMs =
      (rollCycle (prior.getD (initialAccount sight.cycleStartMs)) sight.cycleStartMs).cycleStartMs := by
  rw [account, read]
  exact (applySample_spec prior _).1

/-- A policy leaves an account, or empties it. -/
theorem accounts_applyPolicy {state : UsageSamplingState} {slotId other : JsString}
    {usage : DesiredUsage} {now : Nat} {after : SlotAccount}
    (known : (applyPolicy state slotId usage now).1.accounts.get other = some after) :
    state.accounts.get other = some after ∨ after.cycleBytes = 0 := by
  unfold applyPolicy at known
  simp only at known
  split at known
  · rw [OrderedMap.get_set] at known
    split at known
    · cases known
      exact .inr rfl
    · exact .inl known
  · split at known
    · exact .inl known
    · rw [OrderedMap.get_set] at known
      split at known
      · cases known
        exact .inr rfl
      · exact .inl known

namespace Recorded

def Backed (r : Recorded) : Prop :=
  ∀ slotId account, r.state.accounts.get slotId = some account →
    account.BackedBy (r.shares slotId)

theorem backed_initial (state : UsageSamplingState) : (initial state).Backed := by
  intro slotId account known
  refine ⟨[⟨account.cycleStartMs, account.cycleBytes⟩], [], ?_, by simp, by simp⟩
  have isInitial : state.accounts.get slotId = some account := known
  simp [initial, isInitial]

section See

variable (r : Recorded) (counters : Counters) (now : Nat) (observation : UsageObservation)

theorem accounts_see (slotId : JsString) :
    (r.see counters now observation).state.accounts.get slotId =
      if slotId = observation.logicalSlotId then
        some (account (r.state.accounts.get slotId) (r.state.sight counters now observation))
      else r.state.accounts.get slotId :=
  accounts_applyUsageSample counters now r.state observation slotId

theorem shares_see (slotId : JsString) :
    (r.see counters now observation).shares slotId =
      if slotId = observation.logicalSlotId ∧ counters.get observation.ifname ≠ none then
        r.share counters now observation :: r.shares slotId
      else r.shares slotId := by
  rw [see]
  by_cases read : counters.get observation.ifname = none
  · simp [read]
  · by_cases same : slotId = observation.logicalSlotId
    · subst same
      simp [read]
    · simp [read, same]

end See

/-- A reading adds one share, of the cycle that the account is in then. -/
theorem backedBy_account {r : Recorded} (backed : r.Backed) (counters : Counters) (now : Nat)
    (observation : UsageObservation) :
    (account (r.state.accounts.get observation.logicalSlotId)
      (r.state.sight counters now observation)).BackedBy
        ((r.see counters now observation).shares observation.logicalSlotId) := by
  rw [shares_see]
  cases read : counters.get observation.ifname with
  | none =>
    have unread : (r.state.sight counters now observation).current = none := read
    rw [if_neg (fun both => both.2 rfl), account, unread]
    cases prior : r.state.accounts.get observation.logicalSlotId with
    | none => exact .empty _ _
    | some before => exact backed _ before prior
  | some current =>
    have bytes := @cycleBytes_account r.state ⟨counters, now, now⟩ _ _ read
    have isCurrent : (r.state.sight counters now observation).current = some current := read
    have start := start_account_read isCurrent (r.state.accounts.get observation.logicalSlotId)
    rw [if_pos ⟨rfl, by simp⟩, share]
    refine SlotAccount.BackedBy.cons (.rollCycle ?_ _) start bytes
    cases prior : r.state.accounts.get observation.logicalSlotId with
    | none => exact .empty _ _
    | some before => exact backed _ before prior

theorem backed_see {r : Recorded} (backed : r.Backed) (counters : Counters) (now : Nat)
    (observation : UsageObservation) : (r.see counters now observation).Backed := by
  intro slotId after known
  rw [accounts_see] at known
  by_cases same : slotId = observation.logicalSlotId
  · subst same
    rw [if_pos rfl, Option.some.injEq] at known
    subst known
    exact backedBy_account backed counters now observation
  · rw [if_neg same] at known
    rw [shares_see, if_neg (fun both => same both.1)]
    exact backed slotId after known

theorem backed_policy {r : Recorded} (backed : r.Backed) (slotId : JsString)
    (usage : DesiredUsage) (now : Nat) : (r.step (.policy slotId usage now)).Backed := by
  intro other after known
  rcases accounts_applyPolicy known with unmoved | noBytes
  · exact backed other after unmoved
  · exact .zero noBytes

theorem backed_step {r : Recorded} (backed : r.Backed) (event : UsageEvent) :
    (r.step event).Backed := by
  cases event with
  | policy slotId usage now => exact backed_policy backed slotId usage now
  | pass pass =>
    rw [step]
    induction pass.observations generalizing r with
    | nil => exact backed
    | cons observation rest ih => exact ih (backed_see backed pass.counters pass.now observation)

theorem backed_run (state : UsageSamplingState) (events : List UsageEvent) :
    (run state events).Backed := by
  unfold run
  induction events using List.reverseRecOn with
  | nil => exact backed_initial state
  | append_singleton events event ih =>
    rw [List.foldl_concat]
    exact backed_step ih event

end Recorded

/-! ### The cycle after a pass -/

/-- A sight opens an account or moves it on, if it has a counter. -/
theorem start_account (prior : Option SlotAccount) (sight : Sight) :
    let start := (prior.map SlotAccount.cycleStartMs).getD sight.cycleStartMs
    (account prior sight).cycleStartMs =
      if sight.current ≠ none ∧ start.lt sight.cycleStartMs = true then sight.cycleStartMs
      else start := by
  intro start
  cases read : sight.current with
  | none =>
    rw [if_neg (fun both => both.1 rfl), account, read]
    cases prior <;> rfl
  | some =>
    rw [start_account_read read]
    have isStart : (prior.getD (initialAccount sight.cycleStartMs)).cycleStartMs = start := by
      cases prior <;> rfl
    unfold rollCycle
    rw [isStart]
    by_cases rolls : start.lt sight.cycleStartMs = true
    · rw [if_pos rolls, if_pos ⟨by simp, rolls⟩]
    · rw [if_neg rolls, if_neg (fun both => rolls both.2), isStart]

theorem start_account_lt {prior : Option SlotAccount} {sight : Sight} {later : Double} :
    (account prior sight).cycleStartMs.lt later = true ↔
      ((prior.map SlotAccount.cycleStartMs).getD sight.cycleStartMs).lt later = true ∧
        (sight.current ≠ none → later.le sight.cycleStartMs = false) := by
  rw [start_account]
  by_cases read : sight.current = none
  · simp [read]
  · simp only [ne_eq, read, not_false_eq_true, true_and, true_implies]
    exact Double.later_lt_iff

/-- An account is before a time just if it began before, and so did all that was read. -/
theorem accountFrom_lt {prior : Option SlotAccount} {history : List Sight} {after : SlotAccount}
    (isAfter : accountFrom prior history = some after) (later : Double) :
    ∃ start, (prior.map SlotAccount.cycleStartMs).or
        (history.getLast?.map Sight.cycleStartMs) = some start ∧
      (after.cycleStartMs.lt later = true ↔ start.lt later = true ∧
        ∀ sight ∈ history, sight.current ≠ none → later.le sight.cycleStartMs = false) := by
  induction history generalizing after with
  | nil =>
    rw [accountFrom] at isAfter
    subst isAfter
    exact ⟨after.cycleStartMs, rfl, by simp⟩
  | cons sight before ih =>
    rw [accountFrom, Option.some.injEq] at isAfter
    subst isAfter
    simp only [List.forall_mem_cons]
    cases earlier : accountFrom prior before with
    | none =>
      cases before with
      | cons => cases earlier
      | nil =>
        rw [accountFrom] at earlier
        subst earlier
        refine ⟨sight.cycleStartMs, rfl, ?_⟩
        rw [start_account_lt]
        simp
    | some =>
      obtain ⟨start, isStart, before_iff⟩ := ih earlier
      refine ⟨start, ?_, ?_⟩
      · cases before with
        | nil =>
          rw [accountFrom] at earlier
          subst earlier
          exact isStart
        | cons => rw [List.getLast?_cons_cons, isStart]
      · rw [start_account_lt, Option.map_some, Option.getD_some, before_iff, and_assoc,
          and_comm (a := ∀ _ ∈ before, _)]

section Pass

variable (state : UsageSamplingState) (pass : SamplingPass)

variable (slotId : JsString)

theorem history_pass : state.history slotId (sightings [pass]) =
    ((pass.observations.filter fun observation => observation.logicalSlotId = slotId).map
      (state.sight pass.counters pass.now)).reverse := by
  simp [UsageSamplingState.history, sightings, List.filter_map, Function.comp_def]

theorem accounts_pass : (state.pass pass).accounts.get slotId =
    accountFrom (state.accounts.get slotId) (state.history slotId (sightings [pass])) := by
  rw [← accounts_foldl_see, ← foldl_pass]
  rfl

theorem cycleAt_pass (now : Nat) (observation : UsageObservation) :
    (state.pass pass).cycleAt now observation = state.cycleAt now observation := by
  have same : state.pass pass = (sightings [pass]).foldl UsageSamplingState.see state :=
    foldl_pass [pass]
  obtain ⟨-, day, overrides⟩ := @constants_foldl_see state (sightings [pass])
  simp only [UsageSamplingState.cycleAt, same, day, overrides]

theorem mem_history_pass {slotId : JsString} {sight : Sight} :
    sight ∈ state.history slotId (sightings [pass]) ↔ ∃ observation ∈ pass.observations,
      observation.logicalSlotId = slotId ∧
        state.sight pass.counters pass.now observation = sight := by
  simp [history_pass, and_assoc]

theorem found_eq : state.found pass slotId =
    ((state.accounts.get slotId).map SlotAccount.cycleStartMs).or
      ((state.history slotId (sightings [pass])).getLast?.map Sight.cycleStartMs) := by
  rw [history_pass, List.getLast?_reverse, List.head?_map, List.head?_filter, Option.map_map]
  rfl

/-- After a pass the account is in no earlier cycle just if the pass moves it on where it must. -/
theorem account_current_iff {observation : UsageObservation}
    (mem : observation ∈ pass.observations) : ∃ after,
      (state.pass pass).accounts.get observation.logicalSlotId = some after ∧
        (after.cycleStartMs.lt (state.cycleAt pass.now observation) = false ↔
          state.MovesOn pass observation) := by
  have seen := (mem_history_pass state pass).mpr ⟨observation, mem, rfl, rfl⟩
  cases isAfter : accountFrom (state.accounts.get observation.logicalSlotId)
      (state.history observation.logicalSlotId (sightings [pass])) with
  | none =>
    cases history : state.history observation.logicalSlotId (sightings [pass]) with
    | nil => simp [history] at seen
    | cons => simp [history, accountFrom] at isAfter
  | some after =>
    refine ⟨after, (accounts_pass state pass _).trans isAfter, ?_⟩
    obtain ⟨start, isStart, behind⟩ :=
      accountFrom_lt isAfter (state.cycleAt pass.now observation)
    rw [← found_eq] at isStart
    rw [← Bool.not_eq_true, behind, not_and_or, Bool.not_eq_true]
    refine or_congr ?_ ?_
    · rw [isStart]
      simp
    · push Not
      constructor
      · rintro ⟨sight, isSeen, read, reaches⟩
        obtain ⟨other, isOther, same, rfl⟩ := (mem_history_pass state pass).mp isSeen
        exact ⟨other, isOther, same, read, (Bool.not_eq_false _).mp reaches⟩
      · rintro ⟨other, isOther, same, read, reaches⟩
        refine ⟨_, (mem_history_pass state pass).mpr ⟨other, isOther, same, rfl⟩, read, ?_⟩
        exact (Bool.not_eq_false _).mpr reaches

theorem movesOn_of_read {observation : UsageObservation} (mem : observation ∈ pass.observations)
    (read : pass.counters.get observation.ifname ≠ none) : state.MovesOn pass observation := by
  by_cases behind : ∃ start, state.found pass observation.logicalSlotId = some start ∧
      start.lt (state.cycleAt pass.now observation) = true
  · obtain ⟨start, -, less⟩ := behind
    exact .inr ⟨observation, mem, rfl, read, Double.le_self_of_lt less⟩
  · push Not at behind
    exact .inl fun start isStart => by simpa using behind start isStart

end Pass

namespace Recorded

theorem state_step_pass (r : Recorded) (pass : SamplingPass) :
    (r.step (.pass pass)).state = r.state.pass pass := by
  rw [step, UsageSamplingState.pass, applyUsageSamples]
  induction pass.observations generalizing r with
  | nil => rfl
  | cons observation rest ih => exact ih (r.see pass.counters pass.now observation)

end Recorded

/-- A pass leaves no slot that it observed in an earlier cycle just if it moves on those whose
counter it cannot read. -/
theorem pass_current_iff (state : UsageSamplingState) (events : List UsageEvent)
    (pass : SamplingPass) :
    (∀ observation ∈ pass.observations,
      (Recorded.run state (events ++ [.pass pass])).Current pass.now observation) ↔
      ∀ observation ∈ pass.observations, pass.counters.get observation.ifname = none →
        (Recorded.run state events).state.MovesOn pass observation := by
  have backed := Recorded.backed_run state (events ++ [.pass pass])
  rw [Recorded.run, List.foldl_concat] at backed ⊢
  generalize before : events.foldl Recorded.step (.initial state) = r at backed ⊢
  have isRun : Recorded.run state events = r := before
  rw [isRun]
  constructor
  · intro current observation mem unread
    obtain ⟨account, known, reaches, -⟩ := current observation mem
    obtain ⟨after, isAfter, moved⟩ := account_current_iff r.state pass mem
    rw [Recorded.state_step_pass] at known reaches
    rw [cycleAt_pass] at reaches
    cases isAfter.symm.trans known
    exact moved.mp reaches
  · intro movesOn observation mem
    obtain ⟨after, isAfter, moved⟩ := account_current_iff r.state pass mem
    have moves : r.state.MovesOn pass observation := by
      by_cases unread : pass.counters.get observation.ifname = none
      · exact movesOn observation mem unread
      · exact movesOn_of_read r.state pass mem unread
    have reaches := moved.mpr moves
    rw [← cycleAt_pass, ← Recorded.state_step_pass] at reaches
    rw [← Recorded.state_step_pass] at isAfter
    obtain ⟨recent, older, shares, sum, inCycle⟩ := backed _ _ isAfter
    refine ⟨after, isAfter, reaches, recent, older, shares, sum, fun share isRecent => ?_⟩
    rw [inCycle share isRecent]
    exact reaches

/-- In July a counter cannot be read, and the slot still reports the bytes of June. -/
theorem previous_cycle_reported :
    let observation : UsageObservation :=
      ⟨js "slot-a", 1, js "wwan0", .high, ⟨some (.finite 1), none⟩⟩
    let reads bytes : Counters := .ofItems [(js "wwan0", bytes)]
    let june : List UsageEvent :=
      [.pass ⟨1781049600000, reads 1000, [observation]⟩,
        .pass ⟨1781913600000, reads 5000, [observation]⟩]
    let july := 1783209600000
    let reported := Recorded.run (freshSampling (js "boot") (.finite 1) .empty)
      (june ++ [.pass ⟨july, .empty, [observation]⟩])
    (reported.state.accounts.get (js "slot-a")).map
        (fun account => (account.cycleBytes, account.cycleStartMs)) =
      some (4000, .finite 1780272000000) ∧
      reported.state.cycleAt july observation = .finite 1782864000000 ∧
      ¬ reported.Current july observation := by
  intro observation reads june july reported
  refine ⟨by decide +kernel, by decide, ?_⟩
  rintro ⟨account, known, reaches, -⟩
  have isAccount : reported.state.accounts.get (js "slot-a") =
      some ⟨4000, .finite 1780272000000, false, some ⟨js "slot-a", 1, js "wwan0", js "boot"⟩,
        some 5000⟩ := by
    decide +kernel
  cases isAccount.symm.trans known
  exact absurd reaches (by decide)

end ModemStack.Usage
