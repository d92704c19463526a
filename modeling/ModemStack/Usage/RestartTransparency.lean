import ModemStack.Usage.Persistence

/-!
Restarting the usage sampler.

The document keeps of an account what accounting goes on from: a process that starts
from it counts as the stopped one would have. In another boot it goes on from the totals
and takes the first reading as its baseline.
-/

namespace ModemStack.Usage

open ModemStack.Data ModemStack.Domain ModemStack.Text ModemStack.Time

/-- A sampler that has loaded `file`. -/
def startSampling (file : UsageFile) (bootId : JsString) (defaultCycleDay : Double)
    (nowMs : Rat) : UsageSamplingState where
  bootId := bootId
  defaultCycleDay := defaultCycleDay
  accounts := hydrateUsageAccounts (load file bootId nowMs).state bootId
  policies := .empty
  policyOverrides := .empty
  rates := .empty

/-- The file a sampler persists. -/
def UsageSamplingState.stored (state : UsageSamplingState) (savedAtMs : Rat) : UsageFile :=
  .json (persistedUsageState state.bootId savedAtMs state.accounts).json

/-- The figures of an account that are reported. -/
def SlotAccount.figures (account : SlotAccount) : Rat × Double :=
  (account.cycleBytes, account.cycleStartMs)

/-! ### Accounts as accounting keeps them -/

/-- An account of the slot in this boot has no baseline, or is not paused and has a whole
one. -/
def Whole (bootId slotId : JsString) (account : SlotAccount) : Prop :=
  account.key = none ∧ account.lastObserved = none ∨
    account.paused = false ∧ ∃ key observed, account.key = some key ∧
      account.lastObserved = some observed ∧ key.logicalSlotId = slotId ∧ key.bootId = bootId

/-- The account as a process finds it that resumes. -/
def SlotAccount.resumed (account : SlotAccount) : SlotAccount := { account with paused := false }

section Accounts

variable {bootId slotId : JsString} {prior : Option SlotAccount} {account other : SlotAccount}
  {sight : Sight}

theorem rollCycle_fields (account : SlotAccount) (start : Double) :
    (rollCycle account start).paused = account.paused ∧
      (rollCycle account start).key = account.key ∧
      (rollCycle account start).lastObserved = account.lastObserved ∧
      ((rollCycle account start).cycleStartMs = account.cycleStartMs ∨
        (rollCycle account start).cycleStartMs = start) := by
  unfold rollCycle
  split_ifs
  · exact ⟨rfl, rfl, rfl, .inr rfl⟩
  · exact ⟨rfl, rfl, rfl, .inl rfl⟩

/-- Sampling keeps accounts whole. -/
theorem whole_account (isSlot : sight.key.logicalSlotId = slotId)
    (isBoot : sight.key.bootId = bootId)
    (whole : ∀ account, prior = some account → Whole bootId slotId account) :
    Whole bootId slotId (Usage.account prior sight) := by
  unfold Usage.account
  cases sight.current with
  | none =>
    cases prior with
    | none => exact .inl ⟨rfl, rfl⟩
    | some account => exact whole account rfl
  | some current =>
    simp only [applySample]
    split_ifs
    · exact .inl ⟨rfl, rfl⟩
    · split
      · split_ifs <;> exact .inr ⟨rfl, sight.key, current, rfl, rfl, isSlot, isBoot⟩
      · exact .inr ⟨rfl, sight.key, current, rfl, rfl, isSlot, isBoot⟩

/-- Without a baseline a reading becomes one, or pauses the account. -/
theorem applySample_noBaseline {input : SampleInput} (noKey : account.key = none) :
    applySample (some account) input =
      if input.confidence = .low then
        ⟨(rollCycle account input.cycleStartMs).cycleBytes,
          (rollCycle account input.cycleStartMs).cycleStartMs, true, none, none⟩
      else
        ⟨(rollCycle account input.cycleStartMs).cycleBytes,
          (rollCycle account input.cycleStartMs).cycleStartMs, false, some input.key,
          some input.current⟩ := by
  obtain ⟨-, key, -, -⟩ := rollCycle_fields account input.cycleStartMs
  rw [noKey] at key
  simp only [applySample, Option.getD_some]
  generalize rollCycle account input.cycleStartMs = base at *
  obtain ⟨bytes, start, paused, baseKey, lastObserved⟩ := base
  cases key
  cases paused <;> rfl

/-- A sight makes the same of an account and of what a process resumes it as. -/
theorem account_resumed (whole : Whole bootId slotId account) :
    (Usage.account (some account.resumed) sight).resumed =
      (Usage.account (some account) sight).resumed := by
  unfold Usage.account
  cases sight.current with
  | none => rfl
  | some =>
    have rolled (start : Double) :
        rollCycle account.resumed start = (rollCycle account start).resumed := by
      unfold rollCycle SlotAccount.resumed
      split_ifs <;> rfl
    obtain ⟨paused, -, -, -⟩ := rollCycle_fields account sight.cycleStartMs
    rcases whole with ⟨noKey, -⟩ | ⟨unpaused, -⟩
    · have noKey' : account.resumed.key = none := noKey
      simp only [applySample_noBaseline noKey, applySample_noBaseline noKey', rolled]
      split_ifs <;> rfl
    · simp only [applySample, Option.getD_some, rolled]
      have same : (rollCycle account sight.cycleStartMs).resumed =
          rollCycle account sight.cycleStartMs := by
        rw [SlotAccount.resumed, ← unpaused, ← paused]
      rw [same]

theorem whole_resumed (whole : Whole bootId slotId account) :
    Whole bootId slotId account.resumed := by
  rcases whole with noBaseline | ⟨-, rest⟩
  · exact .inl noBaseline
  · exact .inr ⟨rfl, rest⟩

theorem figures_of_resumed {a b : Option SlotAccount}
    (same : a.map SlotAccount.resumed = b.map SlotAccount.resumed) :
    a.map SlotAccount.figures = b.map SlotAccount.figures := by
  have figures := congrArg (Option.map SlotAccount.figures) same
  rw [Option.map_map, Option.map_map] at figures
  exact figures

/-- The first reading an account without baseline gets attributes nothing. -/
theorem cycleBytes_noBaseline (noKey : account.key = none) {current : Rat}
    (read : sight.current = some current) :
    (Usage.account (some account) sight).cycleBytes =
      (rollCycle account sight.cycleStartMs).cycleBytes := by
  simp only [Usage.account, read, applySample_noBaseline noKey]
  split_ifs <;> rfl

theorem cycleStartMs_noBaseline (noKey : account.key = none) {current : Rat}
    (read : sight.current = some current) :
    (Usage.account (some account) sight).cycleStartMs =
      (rollCycle account sight.cycleStartMs).cycleStartMs := by
  simp only [Usage.account, read, applySample_noBaseline noKey]
  split_ifs <;> rfl

/-- A process of the same boot resumes what is persisted. -/
theorem hydrateSlot_sameBoot (whole : Whole bootId slotId account) :
    hydrateSlot true bootId (persistedSlot slotId account) = account.resumed := by
  obtain ⟨bytes, start, paused, key, observed⟩ := account
  rcases whole with ⟨noKey, unobserved⟩ | ⟨-, key, observed, isKey, isObserved, isSlot, isBoot⟩
  · cases noKey
    cases unobserved
    rfl
  · cases isKey
    cases isObserved
    obtain ⟨slot, generation, ifname, boot⟩ := key
    cases isSlot
    cases isBoot
    rfl

variable (sameBoot : Bool)

theorem cycleBytes_hydrateSlot (slot : PersistedSlot) :
    (hydrateSlot sameBoot bootId slot).cycleBytes = slot.cycleBytes := by
  unfold hydrateSlot
  split <;> rfl

theorem cycleStartMs_hydrateSlot (slot : PersistedSlot) :
    (hydrateSlot sameBoot bootId slot).cycleStartMs = slot.cycleStartMs := by
  unfold hydrateSlot
  split <;> rfl

end Accounts

/-! ### States as sampling keeps them -/

/-- The accounts of a sampler: one for each slot, whole, in a cycle with a finite start. -/
structure KeptAccounts (state : UsageSamplingState) : Prop where
  distinct : state.accounts.keys.Nodup
  whole : ∀ slotId account, state.accounts.get slotId = some account →
    Whole state.bootId slotId account
  finite : ∀ slotId account, state.accounts.get slotId = some account →
    ∃ start, account.cycleStartMs = .finite start

/-- Stopping `running` after a persist and starting again changes no figure. -/
structure RestartTransparent (running : UsageSamplingState) (savedAtMs restartedAtMs : Rat) :
    Prop where
  resumes : ∀ (passes : List SamplingPass) slotId,
    ((passes.foldl UsageSamplingState.pass (startSampling (running.stored savedAtMs)
      running.bootId running.defaultCycleDay restartedAtMs)).accounts.get slotId).map
        SlotAccount.figures =
      ((passes.foldl UsageSamplingState.pass running).accounts.get slotId).map SlotAccount.figures
  /-- In another boot the totals are kept. -/
  keeps : ∀ bootId, bootId ≠ running.bootId → ∀ slotId,
    ((startSampling (running.stored savedAtMs) bootId running.defaultCycleDay
      restartedAtMs).accounts.get slotId).map SlotAccount.figures =
      (running.accounts.get slotId).map SlotAccount.figures
  /-- In another boot the first reading of a slot attributes no bytes: the total is what it
  was, or a newer cycle begins at 0. -/
  rebases : ∀ bootId, bootId ≠ running.bootId → ∀ slotId kept,
    (startSampling (running.stored savedAtMs) bootId running.defaultCycleDay
      restartedAtMs).accounts.get slotId = some kept → ∀ (seen : List Sighting) s,
    (∀ sight ∈ (startSampling (running.stored savedAtMs) bootId running.defaultCycleDay
      restartedAtMs).history slotId seen, sight.current = none) →
    s.observation.logicalSlotId = slotId → ∃ after,
      ((seen ++ [s]).foldl UsageSamplingState.see (startSampling (running.stored savedAtMs) bootId
        running.defaultCycleDay restartedAtMs)).accounts.get slotId = some after ∧
      (after.cycleBytes = kept.cycleBytes ∨
        after.cycleBytes = 0 ∧ kept.cycleStartMs.lt after.cycleStartMs = true)

section Restart

variable {running : UsageSamplingState} {savedAtMs restartedAtMs : Rat}

/-- What a process that loads the stored document has of a slot. -/
theorem accounts_restarted (kept : KeptAccounts running) (bootId slotId : JsString) :
    (startSampling (running.stored savedAtMs) bootId running.defaultCycleDay
      restartedAtMs).accounts.get slotId =
        (running.accounts.get slotId).map fun account =>
          hydrateSlot (running.bootId = bootId) bootId (persistedSlot slotId account) := by
  have finite : ∀ slot ∈ (persistedUsageState running.bootId savedAtMs running.accounts).slots,
      ∃ start, slot.cycleStartMs = .finite start := by
    intro slot mem
    obtain ⟨item, isItem, rfl⟩ := List.mem_map.mp mem
    exact kept.finite item.1 item.2 (OrderedMap.get_of_mem_items kept.distinct isItem)
  have loaded := load_json finite bootId restartedAtMs
  have keys : ((running.accounts.items.map fun item => (item.1,
      hydrateSlot (running.bootId = bootId) bootId (persistedSlot item.1 item.2))).map
        Prod.fst).Nodup := by
    rw [List.map_map]
    exact kept.distinct
  have hydrated : hydrateUsageAccounts (persistedUsageState running.bootId savedAtMs
      running.accounts) bootId = ⟨running.accounts.items.map fun item => (item.1,
        hydrateSlot (running.bootId = bootId) bootId (persistedSlot item.1 item.2))⟩ := by
    rw [← OrderedMap.ofItems_items keys, hydrateUsageAccounts, persistedUsageState, List.map_map]
    rfl
  unfold startSampling UsageSamplingState.stored
  simp only [loaded, hydrated]
  exact OrderedMap.get_mapItems running.accounts
    (fun slotId account => hydrateSlot (running.bootId = bootId) bootId
      (persistedSlot slotId account)) slotId

variable {history : List Sight}

theorem whole_accountFrom {bootId slotId : JsString} {prior : Option SlotAccount}
    (whole : ∀ account, prior = some account → Whole bootId slotId account)
    (own : ∀ sight ∈ history, sight.key.logicalSlotId = slotId ∧ sight.key.bootId = bootId) :
    ∀ account, accountFrom prior history = some account → Whole bootId slotId account := by
  induction history with
  | nil => exact whole
  | cons sight before ih =>
    intro account isAccount
    cases isAccount
    obtain ⟨isSlot, isBoot⟩ := own sight List.mem_cons_self
    exact whole_account isSlot isBoot (ih fun other mem => own other (List.mem_cons_of_mem _ mem))

/-- From accounts that differ in a dropped pause, a history leads to such accounts. -/
theorem accountFrom_resumed {bootId slotId : JsString} {prior other : Option SlotAccount}
    (whole : ∀ account, prior = some account → Whole bootId slotId account)
    (whole' : ∀ account, other = some account → Whole bootId slotId account)
    (same : other.map SlotAccount.resumed = prior.map SlotAccount.resumed)
    (own : ∀ sight ∈ history, sight.key.logicalSlotId = slotId ∧ sight.key.bootId = bootId) :
    (accountFrom other history).map SlotAccount.resumed =
      (accountFrom prior history).map SlotAccount.resumed := by
  induction history with
  | nil => exact same
  | cons sight before ih =>
    have ownBefore := fun other mem => own other (List.mem_cons_of_mem sight mem)
    have earlier := ih ownBefore
    simp only [accountFrom, Option.map_some, Option.some.injEq]
    cases known : accountFrom prior before with
    | none =>
      rw [known, Option.map_none, Option.map_eq_none_iff] at earlier
      rw [earlier]
    | some account =>
      rw [known, Option.map_some, Option.map_eq_some_iff] at earlier
      obtain ⟨twin, isTwin, same⟩ := earlier
      rw [isTwin, ← account_resumed (whole_accountFrom whole ownBefore account known),
        ← account_resumed (whole_accountFrom whole' ownBefore twin isTwin), same]

theorem accountFrom_unread {account : SlotAccount}
    (unread : ∀ sight ∈ history, sight.current = none) :
    accountFrom (some account) history = some account := by
  induction history with
  | nil => rfl
  | cons sight before ih =>
    rw [accountFrom, ih fun other mem => unread other (List.mem_cons_of_mem _ mem),
      Usage.account, unread sight List.mem_cons_self]
    rfl

theorem own_history {state : UsageSamplingState} {slotId : JsString} {seen : List Sighting} :
    ∀ sight ∈ state.history slotId seen,
      sight.key.logicalSlotId = slotId ∧ sight.key.bootId = state.bootId := by
  intro sight mem
  rw [UsageSamplingState.history, List.mem_reverse] at mem
  obtain ⟨s, isSeen, rfl⟩ := List.mem_map.mp mem
  exact ⟨of_decide_eq_true (List.mem_filter.mp isSeen).2, rfl⟩

/-- A sampler whose accounts are well kept is restart transparent. -/
theorem KeptAccounts.restart (kept : KeptAccounts running)
    (noOverrides : running.policyOverrides = .empty) (savedAtMs restartedAtMs : Rat) :
    RestartTransparent running savedAtMs restartedAtMs := by
  constructor
  · intro passes slotId
    have sameHistory (seen : List Sighting) : (startSampling (running.stored savedAtMs)
        running.bootId running.defaultCycleDay restartedAtMs).history slotId seen =
          running.history slotId seen := by
      simp only [UsageSamplingState.history, UsageSamplingState.sight, startSampling, noOverrides]
    have whole := kept.whole slotId
    have resumes : ((running.accounts.get slotId).map fun account =>
        hydrateSlot (running.bootId = running.bootId) running.bootId
          (persistedSlot slotId account)) =
        (running.accounts.get slotId).map SlotAccount.resumed := by
      cases known : running.accounts.get slotId with
      | none => rfl
      | some account => simp [hydrateSlot_sameBoot (whole account known)]
    have whole' : ∀ account, (running.accounts.get slotId).map SlotAccount.resumed = some account →
        Whole running.bootId slotId account := by
      intro account isResumed
      obtain ⟨account, known, rfl⟩ := Option.map_eq_some_iff.mp isResumed
      exact whole_resumed (whole account known)
    have same : ((running.accounts.get slotId).map SlotAccount.resumed).map SlotAccount.resumed =
        (running.accounts.get slotId).map SlotAccount.resumed := by
      rw [Option.map_map]
      rfl
    rw [foldl_pass, foldl_pass, accounts_foldl_see, accounts_foldl_see, sameHistory,
      accounts_restarted kept, resumes]
    exact figures_of_resumed (accountFrom_resumed whole whole' same own_history)
  · intro bootId differs slotId
    rw [accounts_restarted kept]
    cases running.accounts.get slotId with
    | none => rfl
    | some =>
      simp only [Option.map_some, Option.some.injEq]
      rw [SlotAccount.figures, cycleStartMs_hydrateSlot, cycleBytes_hydrateSlot]
      rfl
  · intro bootId differs slotId resumed isResumed seen s unread isSlot
    have noKey : resumed.key = none := by
      rw [accounts_restarted kept, decide_eq_false (Ne.symm differs)] at isResumed
      obtain ⟨account, -, rfl⟩ := Option.map_eq_some_iff.mp isResumed
      rfl
    refine ⟨Usage.account (some resumed) (UsageSamplingState.sight (startSampling
      (running.stored savedAtMs) bootId running.defaultCycleDay restartedAtMs) s.counters s.now
        s.observation), ?_, ?_⟩
    · rw [accounts_foldl_see, isResumed, history_snoc, if_pos isSlot, accountFrom,
        accountFrom_unread unread]
    · cases read : (UsageSamplingState.sight (startSampling (running.stored savedAtMs) bootId
          running.defaultCycleDay restartedAtMs) s.counters s.now s.observation).current with
      | none =>
        left
        simp only [Usage.account, read, Option.getD_some]
      | some =>
        rw [cycleBytes_noBaseline noKey read, cycleStartMs_noBaseline noKey read]
        unfold rollCycle
        split_ifs with newer
        · exact .inr ⟨rfl, newer⟩
        · exact .inl rfl

end Restart

end ModemStack.Usage
