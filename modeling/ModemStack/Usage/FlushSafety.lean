import ModemStack.Usage.Sampler

/-!
What a flush leaves in the file, what is remembered until it is saved and what is attributed
only once, over all orders of the tasks of a sampler.

A save that succeeds clears `dirty`, whatever was updated since it took the accounts, and
two saves at a time share the temporary file. `safe_run` holds of the runs in which
neither happens and counters are not applied behind newer ones.
-/

namespace ModemStack.Usage

open ModemStack.Async ModemStack.Async.Program ModemStack.Data ModemStack.Domain
  ModemStack.Storage ModemStack.Text

abbrev SamplerLoop := EventLoop UsageSampler UsageCall SamplerOp SamplerOp.Answer JsString Unit

abbrev SamplerTurn := Turn UsageCall SamplerOp SamplerOp.Answer JsString

/-! ### Safety -/

namespace UsageSampler

/-- The accounts project to a document. -/
def Projects (s : UsageSampler) (document : PersistedUsage) : Prop :=
  persistedUsageState s.sampling.bootId document.savedAtMs s.sampling.accounts = document

/-- The stored document is the projection of the accounts. -/
def Stored (s : UsageSampler) : Prop :=
  ∃ document, s.disk.file = some (.whole document) ∧ s.Projects document

end UsageSampler

/-- Bytes of one interface are attributed to one slot at most once. -/
def Ledger.Once (ledger : Ledger) : Prop :=
  ledger.attributions.Pairwise fun newer older =>
    newer.slotId = older.slotId → newer.ifname = older.ifname → older.upTo ≤ newer.since

/-- A save is in flight. -/
def Saving (loop : SamplerLoop) : Prop :=
  ∃ task op, loop.pending task = some op ∧ op ≠ .inr .read

/-- A sampler something has been updated in. -/
structure Safe (loop : SamplerLoop) : Prop where
  flushed : (∀ task, loop.pending task = none) → 0 < loop.shared.updates →
    loop.shared.flushed = some loop.shared.updates → loop.shared.Stored
  remembered : ¬ Saving loop → 0 < loop.shared.updates → loop.shared.dirty = false →
    loop.shared.Stored
  once : loop.shared.ledger.Once

/-! ### The ledger -/

/-- No observation is read at an earlier moment than its slot and interface already were. -/
def Ledger.InOrder (ledger : Ledger) (observations : List UsageObservation) (counted : Counted) :
    Prop :=
  ∀ observation ∈ observations, observation.confidence ≠ .low →
    counted.counters.get observation.ifname ≠ none →
    ledger.readAt (observation.logicalSlotId, observation.ifname) ≤ counted.moment

structure Ledger.Ordered (ledger : Ledger) : Prop where
  read : ∀ a ∈ ledger.attributions, a.upTo ≤ ledger.readAt (a.slotId, a.ifname)
  once : ledger.Once

variable {counted : Counted}

theorem Ledger.Ordered.note {ledger : Ledger} (ordered : ledger.Ordered)
    {state : UsageSamplingState} {observation : UsageObservation}
    (inOrder : ledger.InOrder [observation] counted) :
    (ledger.note state counted observation).Ordered := by
  unfold Ledger.note
  by_cases skipped : observation.confidence = .low ∨
      counted.counters.get observation.ifname = none
  · rw [if_pos skipped]
    exact ordered
  · rw [if_neg skipped]
    obtain ⟨confident, counts⟩ := not_or.mp skipped
    have later := inOrder observation List.mem_cons_self confident counts
    have moved (a : Attribution) (mem : a ∈ ledger.attributions) :
        a.upTo ≤ Function.update ledger.readAt
          (observation.logicalSlotId, observation.ifname) counted.moment (a.slotId, a.ifname) := by
      have before := ordered.read a mem
      by_cases same : (a.slotId, a.ifname) = (observation.logicalSlotId, observation.ifname)
      · rw [same] at before ⊢
        rw [Function.update_self]
        exact Nat.le_trans before later
      · rwa [Function.update_of_ne same]
    by_cases adds : 0 < state.added counted observation
    · simp only [if_pos adds]
      constructor
      · intro a mem
        rcases List.mem_cons.mp mem with rfl | mem
        · simp only [Function.update_self, Nat.le_refl]
        · exact moved a mem
      · refine List.Pairwise.cons ?_ ordered.once
        intro older mem sameSlot sameIfname
        have before := ordered.read older mem
        simp only at sameSlot sameIfname
        rwa [← sameSlot, ← sameIfname] at before
    · simp only [if_neg adds]
      exact ⟨moved, ordered.once⟩

theorem Ledger.InOrder.note {ledger : Ledger} {observations : List UsageObservation}
    (inOrder : ledger.InOrder observations counted) (state : UsageSamplingState)
    (observation : UsageObservation) :
    (ledger.note state counted observation).InOrder observations counted := by
  intro other mem confident counts
  unfold Ledger.note
  by_cases skipped : observation.confidence = .low ∨
      counted.counters.get observation.ifname = none
  · rw [if_pos skipped]
    exact inOrder other mem confident counts
  · rw [if_neg skipped]
    by_cases same : (other.logicalSlotId, other.ifname) =
        (observation.logicalSlotId, observation.ifname)
    · rw [same]
      exact Nat.le_of_eq (Function.update_self _ _ _)
    · simp only [Function.update_of_ne same]
      exact inOrder other mem confident counts

theorem ordered_recordSamples {observations : List UsageObservation}
    {state : UsageSamplingState × Ledger} (ordered : state.2.Ordered)
    (inOrder : state.2.InOrder observations counted) :
    (recordSamples counted observations state).2.Ordered := by
  induction observations generalizing state with
  | nil => exact ordered
  | cons observation observations ih =>
    have first : state.2.InOrder [observation] counted := fun other mem =>
      inOrder other (List.mem_cons.mpr (.inl (List.mem_singleton.mp mem)))
    have rest : state.2.InOrder observations counted := fun other mem =>
      inOrder other (List.mem_cons_of_mem observation mem)
    exact ih (ordered.note first) (rest.note state.1 observation)

/-! ### What turns of a sampler keep -/

namespace UsageSampler

/-- The invariant of a sampler. -/
structure Kept (s : UsageSampler) : Prop where
  single : ∀ i ∈ s.saving, ∀ j ∈ s.saving, i = j
  dirty : s.saving ≠ [] → s.dirty = true
  stored : s.dirty = false → 0 < s.updates → s.Stored
  flushed : ∀ n, s.flushed = some n → n ≤ s.updates ∧ (n = s.updates → s.dirty = false)
  ledger : s.ledger.Ordered

variable {s : UsageSampler}

theorem Kept.observed (kept : s.Kept) {observations : List UsageObservation} {counted : Counted}
    (inOrder : s.ledger.InOrder observations counted) :
    (s.observed observations counted).Kept where
  single := kept.single
  dirty _ := rfl
  stored clean := nomatch clean
  flushed n resolved := by
    have := (kept.flushed n resolved).1
    simp only [UsageSampler.observed]
    omega
  ledger := ordered_recordSamples kept.ledger inOrder

theorem Kept.applied (kept : s.Kept) (slotId : JsString) (usage : DesiredUsage) (atMs : Nat) :
    (s.applied slotId usage atMs).Kept := by
  cases result : (applyPolicy s.sampling slotId usage atMs).2.dirty with
  | true =>
    constructor
    · exact kept.single
    · simp [UsageSampler.applied, result]
    · simp [UsageSampler.applied, result]
    · intro n resolved
      have := (kept.flushed n resolved).1
      simp only [UsageSampler.applied, result, Bool.toNat_true]
      omega
    · exact kept.ledger
  | false =>
    obtain ⟨boot, accounts⟩ := applyPolicy_clean result
    constructor
    · exact kept.single
    · simpa [UsageSampler.applied, result] using kept.dirty
    · intro clean updated
      simp only [UsageSampler.applied, result, Bool.or_false, Bool.toNat_false,
        Nat.add_zero] at clean updated
      obtain ⟨document, file, projects⟩ := kept.stored clean updated
      refine ⟨document, file, ?_⟩
      rwa [Projects, UsageSampler.applied, boot, accounts]
    · simpa [UsageSampler.applied, result] using kept.flushed
    · exact kept.ledger

theorem Kept.opened (kept : s.Kept) (idle : s.saving = []) (dirty : s.dirty = true)
    (task : Nat) : (s.opened task).Kept where
  single i mem j mem' := by
    simp only [UsageSampler.opened, idle, List.mem_singleton] at mem mem'
    rw [mem, mem']
  dirty _ := dirty
  stored := kept.stored
  flushed := kept.flushed
  ledger := kept.ledger

/-- Of a single save nothing is left when it returns. -/
theorem Kept.closed_saving (kept : s.Kept) {task : Nat} (saves : task ∈ s.saving) :
    (s.closed task).saving = [] := by
  rw [UsageSampler.closed, List.filter_eq_nil_iff]
  intro other mem
  simp [kept.single other mem task saves]

theorem Kept.closed (kept : s.Kept) {task : Nat} (saves : task ∈ s.saving) :
    (s.closed task).Kept where
  single i mem := by
    rw [kept.closed_saving saves] at mem
    cases mem
  dirty inFlight := absurd (kept.closed_saving saves) inFlight
  stored := kept.stored
  flushed := kept.flushed
  ledger := kept.ledger

theorem Kept.persisted (kept : s.Kept) (idle : s.saving = []) (stored : s.Stored) (now : Nat) :
    (s.persisted now).Kept where
  single := kept.single
  dirty inFlight := absurd idle inFlight
  stored _ _ := stored
  flushed n resolved := ⟨(kept.flushed n resolved).1, fun _ => rfl⟩
  ledger := kept.ledger

theorem Kept.resolved (kept : s.Kept) (clean : s.dirty = false) : s.resolved.Kept :=
  { kept with
    flushed := fun _ seen => ⟨Nat.le_of_eq (Option.some.inj seen).symm, fun _ => clean⟩ }

/-- While a save is in flight the sampler is dirty, so the disk is the save's alone. -/
theorem Kept.disk (kept : s.Kept) (inFlight : s.saving ≠ [])
    (change : Disk PersistedUsage → Disk PersistedUsage) : (mount.modify change s).Kept where
  single := kept.single
  dirty := kept.dirty
  stored clean := by
    have clean : s.dirty = false := clean
    rw [kept.dirty inFlight] at clean
    cases clean
  flushed := kept.flushed
  ledger := kept.ledger

theorem create_kept (bootId : JsString) (defaultCycleDay : Double) (now : Nat)
    (initial : PersistedUsage) (disk : Disk PersistedUsage) :
    (create bootId defaultCycleDay now initial disk).Kept where
  single _ mem := nomatch mem
  dirty inFlight := absurd rfl inFlight
  stored _ updated := nomatch updated
  flushed _ resolved := nomatch resolved
  ledger := ⟨fun _ mem => (List.not_mem_nil mem).elim, List.Pairwise.nil⟩

/-! ### The contracts of the tasks -/

section Contracts

variable (persistIntervalMs : Nat)

/-- A task's save stays in flight, and the disk stays as it is while it does. -/
def Leaves (task : Nat) (s s' : UsageSampler) : Prop :=
  (task ∈ s'.saving ↔ task ∈ s.saving) ∧ (task ∈ s.saving → s'.disk = s.disk)

theorem leaves_refl (task : Nat) (s : UsageSampler) : Leaves task s s :=
  ⟨Iff.rfl, fun _ => rfl⟩

theorem Leaves.trans {task : Nat} {s s' s'' : UsageSampler} (first : Leaves task s s')
    (second : Leaves task s' s'') : Leaves task s s'' :=
  ⟨second.1.trans first.1, fun saves => (second.2 (first.1.mpr saves)).trans (first.2 saves)⟩

/-- A sampling task saves only where no save is in flight, and reads no counters behind
newer ones; a save that succeeds finds the accounts as they were. -/
def contract (task : Nat) (call : UsageCall) : Contract UsageSampler SamplerOp SamplerOp.Answer
    JsString where
  rely := Leaves task
  guarantee s s' := ∀ other, other ≠ task → Leaves other s s'
  fair s op answer :=
    match op, answer with
    | .inr .read, .ok counted =>
      (s.Due persistIntervalMs counted.now → s.saving = []) ∧
        ∀ observations, call = .sample observations → s.ledger.InOrder observations counted
    | .inr (.saved state true), _ => s.Projects state
    | _, _ => True
  call op s := op = .inr .read ↔ task ∉ s.saving

def discipline : Discipline UsageSampler UsageCall SamplerOp SamplerOp.Answer JsString Unit where
  invariant := Kept
  fresh task s := task ∉ s.saving
  contract := contract persistIntervalMs
  done task _ _ s := task ∉ s.saving

theorem discipline_lawful : (discipline persistIntervalMs).Lawful where
  refl task _ := leaves_refl task
  trans _ _ _ _ _ := Leaves.trans
  others _ _ _ _ differs _ _ guarantee := guarantee _ (Ne.symm differs)
  fresh _ _ _ lt _ _ guarantee fresh :=
    fun mem => fresh ((guarantee _ (Nat.ne_of_gt lt)).1.mp mem)

variable {persistIntervalMs} {task : Nat} {call : UsageCall} {begun : UsageSampler}

/-- In a turn of a task: the invariant, and what the task owes the others. -/
def Within (task : Nat) (begun s : UsageSampler) : Prop :=
  s.Kept ∧ ∀ other, other ≠ task → Leaves other begun s

theorem Kept.within (kept : s.Kept) : Within task s s :=
  ⟨kept, fun other _ => leaves_refl other s⟩

/-- A change that leaves the saves and the disk. -/
theorem Within.change {s' : UsageSampler} (within : Within task begun s) (kept : s'.Kept)
    (saving : s'.saving = s.saving) (disk : s'.disk = s.disk) : Within task begun s' := by
  refine ⟨kept, fun other differs => (within.2 other differs).trans ⟨?_, fun _ => disk⟩⟩
  rw [saving]

/-- Within a turn, with the task's save in flight. -/
structure Saves (task : Nat) (begun s : UsageSampler) : Prop where
  within : Within task begun s
  inFlight : task ∈ s.saving

theorem Saves.rests {op : SamplerOp} (saves : Saves task begun s) (notRead : op ≠ .inr .read) :
    (contract persistIntervalMs task call).Rests Kept begun s fun now =>
      (contract persistIntervalMs task call).call op now ∧ Saves task now now ∧
        now.disk = s.disk where
  invariant := saves.within.1
  guarantee := saves.within.2
  later now relies kept := by
    have inFlight := relies.1.mpr saves.inFlight
    exact ⟨⟨fun isRead => absurd isRead notRead, fun idle => absurd inFlight idle⟩,
      ⟨kept.within, inFlight⟩, relies.2 saves.inFlight⟩

/-- The disk is that of the only save in flight. -/
theorem Saves.disk (saves : Saves task begun s)
    (change : Disk PersistedUsage → Disk PersistedUsage) :
    Saves task begun (mount.modify change s) := by
  obtain ⟨⟨kept, leaves⟩, inFlight⟩ := saves
  refine ⟨⟨kept.disk (List.ne_nil_of_mem inFlight) change, ?_⟩, inFlight⟩
  intro other differs
  refine ⟨(leaves other differs).1, fun also => ?_⟩
  exact absurd (kept.single other ((leaves other differs).1.mpr also) task inFlight) differs

theorem Saves.closed (saves : Saves task begun s) : Within task begun (s.closed task) := by
  refine ⟨saves.within.1.closed saves.inFlight, fun other differs =>
    (saves.within.2 other differs).trans ⟨?_, fun _ => rfl⟩⟩
  simp [UsageSampler.closed, differs]

theorem Within.opened (within : Within task begun s) (idle : s.saving = [])
    (dirty : s.dirty = true) : Saves task begun (s.opened task) := by
  refine ⟨⟨within.1.opened idle dirty task, fun other differs =>
    (within.2 other differs).trans ⟨?_, fun _ => rfl⟩⟩, List.mem_cons_self⟩
  simp [UsageSampler.opened, differs]

/-- What is renamed is what was written, for the disk is the save's alone. -/
structure Wrote (task : Nat) (state : PersistedUsage) (begun s : UsageSampler) : Prop
    extends Saves task begun s where
  written : s.disk.tmp = some (.whole state)

theorem meets_save {state : PersistedUsage} (saves : Saves task begun s) :
    (writeAtomic mount state).Meets Kept (contract persistIntervalMs task call).left
      (fun outcome begun s => Saves task begun s ∧
        (outcome = .ok () → s.disk.file = some (.whole state))) begun s := by
  have rests {begun s : UsageSampler} (op : FileCall PersistedUsage) (saves : Saves task begun s) :
      (contract persistIntervalMs task call).left.Rests Kept begun s fun now =>
        (contract persistIntervalMs task call).call (.inl op) now ∧ Saves task now now ∧
          now.disk = s.disk := by
    have rests : (contract persistIntervalMs task call).Rests Kept begun s _ :=
      saves.rests (show (.inl op : SamplerOp) ≠ .inr .read from nofun)
    exact ⟨rests.invariant, rests.guarantee, rests.later⟩
  apply meets_writeAtomic saves fun {_ _} (wrote : Wrote task state _ _) => wrote.toSaves
  · intro begun s op saves
    exact { rests op saves with later := fun now relies kept =>
      have ⟨call, saves, _⟩ := (rests op saves).later now relies kept
      ⟨call, saves⟩ }
  · intro begun s op wrote
    exact { rests op wrote.toSaves with later := fun now relies kept =>
      have ⟨call, saves, same⟩ := (rests op wrote.toSaves).later now relies kept
      ⟨call, saves, (congrArg Disk.tmp same).trans wrote.written⟩ }
  · intro s saves
    exact saves.disk _
  · intro s saves
    exact ⟨saves.disk _, rfl⟩
  · intro begun s error saves
    exact ⟨saves, nofun⟩
  · intro now wrote _
    exact ⟨wrote.toSaves.disk _, fun _ => Disk.publish_written wrote.written⟩

/-- A save ends with nothing in flight, and where it succeeds with the sampler clean. -/
theorem meets_persist {Done : Except JsString Unit → UsageSampler → UsageSampler → Prop}
    {now : Nat} (within : Within task begun s) (idle : s.saving = []) (dirty : s.dirty = true)
    (done : ∀ outcome {begun s}, Within task begun s → task ∉ s.saving →
      (outcome = .ok () → s.dirty = false) → Done outcome begun s) :
    (persist task now).Meets Kept (contract persistIntervalMs task call) Done begun s := by
  simp only [persist, meets_monad_bind, meets_get, onOutcome_ok, meets_modify, meets_attempt,
    meets_yield, meets_ofExcept]
  generalize persistedUsageState s.sampling.bootId now s.sampling.accounts = state
  have saves := within.opened idle dirty
  refine (meets_save saves).inl.mono ?_
  rintro outcome begun s ⟨saves, file⟩
  have rests : (contract persistIntervalMs task call).Rests Kept begun s _ :=
    saves.rests (show .inr (.saved state outcome.isOk) ≠ (.inr .read : SamplerOp) from (by simp))
  refine { rests with later := fun later relies kept => ?_ }
  obtain ⟨call, saves, disk⟩ := rests.later later relies kept
  refine ⟨call, fun answer fair => ?_⟩
  have idle := saves.within.1.closed_saving saves.inFlight
  have settled : task ∉ (later.closed task).saving := by
    rw [idle]
    exact List.not_mem_nil
  cases outcome with
  | error => exact done _ saves.closed settled (by simp)
  | ok _ =>
    have stored : (later.closed task).Stored :=
      ⟨state, (congrArg Disk.file disk).trans (file rfl), fair⟩
    exact done _ (saves.closed.change (saves.closed.1.persisted idle stored now) rfl rfl)
      settled fun _ => rfl

/-- A turn that ends outside a save. -/
theorem Within.rests (within : Within task begun s) (settled : task ∉ s.saving)
    {P : UsageSampler → Prop} (holds : ∀ {now}, Within task now now → task ∉ now.saving → P now) :
    (contract persistIntervalMs task call).Rests Kept begun s P where
  invariant := within.1
  guarantee := within.2
  later _ relies kept := holds kept.within fun saves => settled (relies.1.mp saves)

theorem begins (idle : ∀ now, call = .flush now → s.dirty = true → s.saving = [])
    (kept : s.Kept) (fresh : task ∉ s.saving) :
    (discipline persistIntervalMs).Begins (body persistIntervalMs) task call s := by
  change (body persistIntervalMs task call).Meets Kept (contract persistIntervalMs task call)
    (fun _ begun s => (contract persistIntervalMs task call).Rests Kept begun s
      fun later => task ∉ later.saving) s s
  cases call with
  | sample observations =>
    simp only [body, sample, readCounters, maybePersist]
    apply Within.rests kept.within fresh
    intro now within fresh
    refine ⟨⟨fun _ => fresh, fun _ => rfl⟩, fun answer fair => ?_⟩
    cases answer with
    | error => exact within.rests fresh fun _ settled => settled
    | ok counted =>
      have observed : Within task now (now.observed observations counted) :=
        within.change (within.1.observed (fair.2 observations rfl)) rfl rfl
      refine meets_ite (fun due => ?_) fun _ => ?_
      · exact meets_persist observed (fair.1 due) rfl fun _ {_ _} within settled _ =>
          within.rests settled fun _ settled => settled
      · exact observed.rests fresh fun _ settled => settled
  | applyUsagePolicy slotId usage atMs =>
    exact (kept.within.change (kept.applied slotId usage atMs) rfl rfl).rests fresh
      fun _ settled => settled
  | flush now =>
    have resolves {begun s : UsageSampler} (within : Within task begun s)
        (settled : task ∉ s.saving) (clean : s.dirty = false) :
        (contract persistIntervalMs task (.flush now)).Rests Kept begun s.resolved
          fun later => task ∉ later.saving :=
      (within.change (within.1.resolved clean) rfl rfl).rests settled fun _ settled => settled
    simp only [body, flush, meets_monad_bind, meets_get, onOutcome_ok]
    cases dirty : s.dirty with
    | true =>
      rw [if_pos rfl, meets_monad_bind]
      refine meets_persist kept.within (idle now rfl dirty) dirty ?_
      intro outcome begun s within settled clean
      cases outcome with
      | error => exact within.rests settled fun _ settled => settled
      | ok => exact resolves within settled (clean rfl)
    | false => exact resolves kept.within fresh dirty

end Contracts

end UsageSampler

/-! ### Runs -/

section Runs

open UsageSampler

variable (persistIntervalMs : Nat)

/-- A pass saves only where no save is in flight and is not read behind a newer one; a save
that succeeds finds the accounts as it took them. -/
def Answers (loop : SamplerLoop) (call : UsageCall) :
    (op : SamplerOp) → Except JsString op.Answer → Prop
  | .inr .read, .ok counted =>
    (loop.shared.Due persistIntervalMs counted.now → ¬ Saving loop) ∧
      ∀ observations, call = .sample observations →
        loop.shared.ledger.InOrder observations counted
  | .inr (.saved state true), _ => loop.shared.Projects state
  | _, _ => True

/-- A flush saves only where no save is in flight. -/
def Serial (loop : SamplerLoop) : SamplerTurn → Prop
  | .start call => ∀ now, call = .flush now → loop.shared.dirty = true → ¬ Saving loop
  | .resume task answer => ∀ call op next, loop.tasks[task]? = some (call, .await op next) →
      Answers persistIntervalMs loop call op (answer op)

variable {persistIntervalMs}

/-- Where no task awaits its save, none is recorded to be in flight. -/
theorem saving_nil {loop : SamplerLoop} (kept : (discipline persistIntervalMs).Kept loop)
    (none : ¬ Saving loop) : loop.shared.saving = [] := by
  rw [List.eq_nil_iff_forall_not_mem]
  intro task saves
  cases found : loop.tasks[task]? with
  | none => exact kept.fresh task (List.getElem?_eq_none_iff.mp found) saves
  | some entry =>
    obtain ⟨call, p⟩ := entry
    have stands := kept.tasks task call p found
    cases p with
    | ret | fail => exact stands _ (leaves_refl task _) kept.invariant saves
    | await op next =>
      have reads := (stands _ (leaves_refl task _) kept.invariant).1
      by_cases isRead : op = .inr .read
      · exact reads.mp isRead saves
      · exact none ⟨task, op, by rw [EventLoop.pending, found]; rfl, isRead⟩
    | _ => exact stands

theorem Answers.fair {loop : SamplerLoop} {task : Nat} {call : UsageCall} {op : SamplerOp}
    {answer : Except JsString op.Answer} (answers : Answers persistIntervalMs loop call op answer)
    (kept : (discipline persistIntervalMs).Kept loop) :
    (contract persistIntervalMs task call).fair loop.shared op answer := by
  match op, answer, answers with
  | .inr .read, .ok counted, ⟨due, inOrder⟩ =>
    exact ⟨fun isDue => saving_nil kept (due isDue), inOrder⟩
  | .inr .read, .error _, _ => trivial
  | .inr (.saved state true), _, projects => exact projects
  | .inr (.saved state false), _, _ => trivial
  | .inl _, _, _ => trivial

theorem safe_of_kept {loop : SamplerLoop} (kept : (discipline persistIntervalMs).Kept loop) :
    Safe loop where
  flushed _ updated seen :=
    kept.invariant.stored ((kept.invariant.flushed _ seen).2 rfl) updated
  remembered _ updated clean := kept.invariant.stored clean updated
  once := kept.invariant.ledger.once

/-- A sampler whose saves do not overlap and lose no update, and whose counters are applied in
the order of their reading, is safe after every turn. -/
theorem safe_run (persistIntervalMs : Nat) (bootId : JsString) (defaultCycleDay : Double)
    (now : Nat) (initial : PersistedUsage) (disk : Disk PersistedUsage)
    (turns : List SamplerTurn)
    (serial : EventLoop.Allows (body persistIntervalMs) (Serial persistIntervalMs)
      ⟨create bootId defaultCycleDay now initial disk, []⟩ turns) :
    Safe (EventLoop.run (body persistIntervalMs)
      ⟨create bootId defaultCycleDay now initial disk, []⟩ turns) := by
  apply @safe_of_kept persistIntervalMs
  have start : (discipline persistIntervalMs).Kept
      ⟨create bootId defaultCycleDay now initial disk, []⟩ :=
    Discipline.kept_empty (create_kept bootId defaultCycleDay now initial disk)
      fun _ saves => nomatch saves
  refine start.run (discipline_lawful persistIntervalMs) ?_ ?_ serial
  · intro loop call kept allowed
    exact begins (fun now isFlush dirty => saving_nil kept (allowed now isFlush dirty))
      kept.invariant (kept.fresh _ (Nat.le_refl _))
  · intro loop task answer kept allowed call op next awaits
    exact (allowed call op next awaits).fair kept

end Runs

/-! ### A policy written while a save is in flight -/

def answering (counted : Counted) (task : Nat) : SamplerTurn :=
  .resume task fun
    | .inl _ => .ok ()
    | .inr .read => .ok counted
    | .inr (.saved _ _) => .ok ()

/-- 100 bytes on `wwan0`, read a minute after the start. -/
def firstCount : Counted := ⟨OrderedMap.empty.set (js "wwan0") 100, 1, 60000⟩

def samplePass : SamplerTurn :=
  .start (.sample [⟨js "slot-a", 0, js "wwan0", .high, ⟨none, none⟩⟩])

def writePolicy : SamplerTurn := .start (.applyUsagePolicy (js "slot-b") ⟨none, none⟩ 60000)

/-- The five awaits of a save. -/
def saveAnswers (task : Nat) : List SamplerTurn := List.replicate 5 (answering firstCount task)

def newSampler : SamplerLoop :=
  ⟨UsageSampler.create (js "boot-1") (.finite 1) 0 (freshState (js "boot-1") 0) ⟨none, none⟩, []⟩

/-- A sampling pass saves, and a flush writes a policy that was applied since. -/
theorem safe_run_flush : Safe (newSampler.run (UsageSampler.body 60000)
    ([samplePass, answering firstCount 0] ++ saveAnswers 0 ++
      [writePolicy, .start (.flush 60001)] ++ saveAnswers 2)) := by
  refine safe_run 60000 (js "boot-1") (.finite 1) 0 (freshState (js "boot-1") 0) ⟨none, none⟩ _ ?_
  have file {loop : SamplerLoop} {task : Nat} {call : UsageCall} {fileCall : FileCall PersistedUsage}
      {next : Except JsString Unit → SamplerProgram Unit}
      (stands : loop.tasks[task]? = some (call, .await (.inl fileCall) next)) :
      Serial 60000 loop (answering firstCount task) := by
    intro call op next awaits
    cases stands.symm.trans awaits
    trivial
  have idle {loop : SamplerLoop} (settled : ∀ task, loop.pending task = none) : ¬ Saving loop := by
    rintro ⟨task, op, pending, -⟩
    rw [settled task] at pending
    cases pending
  refine ⟨nofun, ?_, file rfl, file rfl, file rfl, file rfl, ?_, nofun, ?_, file rfl, file rfl,
    file rfl, file rfl, ?_, trivial⟩
  · intro call op next awaits
    cases awaits
    constructor
    · rintro - ⟨task, op, pending, notRead⟩
      match task with
      | 0 => exact notRead (Option.some.inj pending).symm
      | _ + 1 => cases pending
    · intro observations _ observation _ _ _
      exact Nat.zero_le 1
  · intro call op next awaits
    cases awaits
    rfl
  · intro now _ _
    apply idle
    intro task
    match task with
    | 0 | 1 => rfl
    | _ + 2 => rfl
  · intro call op next awaits
    cases awaits
    rfl

/-- The flush finds the sampler clean: the save that was in flight when the policy was applied
has cleared `dirty`. -/
theorem safe_fails : ¬ Safe (newSampler.run (UsageSampler.body 60000)
    ([samplePass, answering firstCount 0, writePolicy] ++ saveAnswers 0 ++
      [.start (.flush 60001)])) := by
  intro safe
  have idle : ∀ task, (newSampler.run (UsageSampler.body 60000)
      ([samplePass, answering firstCount 0, writePolicy] ++ saveAnswers 0 ++
        [.start (.flush 60001)])).pending task = none := by
    intro task
    match task with
    | 0 | 1 | 2 => rfl
    | _ + 3 => rfl
  have two : (newSampler.run (UsageSampler.body 60000)
      ([samplePass, answering firstCount 0, writePolicy] ++ saveAnswers 0 ++
        [.start (.flush 60001)])).shared.sampling.accounts.items.length = 2 := by decide
  have one : ∀ document, (newSampler.run (UsageSampler.body 60000)
      ([samplePass, answering firstCount 0, writePolicy] ++ saveAnswers 0 ++
        [.start (.flush 60001)])).shared.disk.file = some (.whole document) →
          document.slots.length = 1 := by
    rintro _ ⟨⟩
    decide
  obtain ⟨document, file, projects⟩ := safe.flushed idle (by decide) (by decide)
  have length := one document file
  rw [← projects, persistedUsageState, List.length_map, two] at length
  cases length

end ModemStack.Usage
