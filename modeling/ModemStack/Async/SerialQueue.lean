import Mathlib.Order.Nat

/-!
Serialization by promise chaining.

Each key has a tail: the job last submitted for it. A new job is chained behind
the tail and becomes the tail itself; it may start once the job it is chained
behind has settled, whether that one resolved or rejected. A tail that has
settled may be dropped from the table. Jobs are numbered in submission order.

`Chain` is what the chaining maintains, and `Chain.exclusive` and `Chain.fifo`
are what it is for: at most one job of a key runs at a time, and the jobs of a
key run in submission order.
-/

namespace ModemStack.Async

inductive Phase where
  | queued
  | running
  | settled
deriving DecidableEq, Repr

/-- A submitted job: its key, the job it is chained behind (none when the key
had no tail) and how far it has come. -/
structure Job (κ : Type) where
  key : κ
  prior : Option Nat
  phase : Phase

structure SerialQueue (κ : Type) where
  tails : κ → Option Nat
  jobs : Nat → Option (Job κ)

namespace SerialQueue

variable {κ : Type}

def empty : SerialQueue κ := ⟨fun _ => none, fun _ => none⟩

/-- Chain job `id` behind the tail of `key` and make it the tail. -/
def enqueue [DecidableEq κ] (q : SerialQueue κ) (id : Nat) (key : κ) : SerialQueue κ where
  tails := Function.update q.tails key (some id)
  jobs := Function.update q.jobs id (some ⟨key, q.tails key, .queued⟩)

def setPhase (q : SerialQueue κ) (id : Nat) (phase : Phase) : SerialQueue κ where
  tails := q.tails
  jobs := Function.update q.jobs id ((q.jobs id).map fun job => { job with phase })

/-- Drop the tail of `key` from the table. -/
def drop [DecidableEq κ] (q : SerialQueue κ) (key : κ) : SerialQueue κ where
  tails := Function.update q.tails key none
  jobs := q.jobs

/-- Job `id` is in phase `phase`, under key `key`. -/
def InPhase (q : SerialQueue κ) (id : Nat) (key : κ) (phase : Phase) : Prop :=
  ∃ prior, q.jobs id = some ⟨key, prior, phase⟩

/-- Job `id` is waiting and the job it is chained behind has settled. -/
def Ready (q : SerialQueue κ) (id : Nat) : Prop :=
  ∃ key prior, q.jobs id = some ⟨key, prior, .queued⟩ ∧
    ∀ p ∈ prior, ∃ key', q.InPhase p key' .settled

def isSettled (q : SerialQueue κ) (id : Nat) : Bool :=
  (q.jobs id).any fun job => job.phase = .settled

def isReady (q : SerialQueue κ) (id : Nat) : Bool :=
  (q.jobs id).any fun job => job.phase = .queued && job.prior.all q.isSettled

/-- No job is numbered `id` or above. -/
def Fresh (q : SerialQueue κ) (id : Nat) : Prop := ∀ j, id ≤ j → q.jobs j = none

/-- The jobs of a key, in submission order, form one chain: a job's predecessor
is the last job submitted before it, a missing predecessor or tail means that
every earlier job has settled, and a job that has started has only settled jobs
before it. -/
structure Chain (q : SerialQueue κ) : Prop where
  tail_last : ∀ key t, q.tails key = some t → ∀ i job, q.jobs i = some job → job.key = key → i ≤ t
  tail_key : ∀ key t, q.tails key = some t → ∃ job, q.jobs t = some job ∧ job.key = key
  tail_none : ∀ key, q.tails key = none → ∀ i job, q.jobs i = some job → job.key = key →
    job.phase = .settled
  prior_last : ∀ i job, q.jobs i = some job → ∀ p, job.prior = some p →
    ∀ j other, q.jobs j = some other → other.key = job.key → j < i → j ≤ p
  prior_key : ∀ i job, q.jobs i = some job → ∀ p, job.prior = some p →
    p < i ∧ ∃ other, q.jobs p = some other ∧ other.key = job.key
  prior_none : ∀ i job, q.jobs i = some job → job.prior = none →
    ∀ j other, q.jobs j = some other → other.key = job.key → j < i → other.phase = .settled
  started : ∀ i job, q.jobs i = some job → job.phase ≠ .queued →
    ∀ j other, q.jobs j = some other → other.key = job.key → j < i → other.phase = .settled

theorem chain_empty : (empty : SerialQueue κ).Chain := by
  constructor <;> simp [empty]

variable {q : SerialQueue κ} {id : Nat} {key : κ}

theorem jobs_enqueue [DecidableEq κ] (i : Nat) : (q.enqueue id key).jobs i =
    if i = id then some ⟨key, q.tails key, .queued⟩ else q.jobs i := by
  simp [enqueue, Function.update_apply]

theorem tails_enqueue [DecidableEq κ] (k : κ) : (q.enqueue id key).tails k =
    if k = key then some id else q.tails k := by
  simp [enqueue, Function.update_apply]

variable {phase : Phase} {i : Nat} {job : Job κ}

theorem jobs_setPhase (i : Nat) : (q.setPhase id phase).jobs i =
    if i = id then (q.jobs id).map fun job => { job with phase } else q.jobs i := by
  simp [setPhase, Function.update_apply]

/-- A job of the queue after `enqueue` is the new one or one that was there. -/
theorem enqueue_cases [DecidableEq κ] (h : (q.enqueue id key).jobs i = some job) :
    (i = id ∧ job = ⟨key, q.tails key, .queued⟩) ∨ (i ≠ id ∧ q.jobs i = some job) := by
  rw [jobs_enqueue] at h
  split at h
  · next eq => exact .inl ⟨eq, (Option.some.inj h).symm⟩
  · next ne => exact .inr ⟨ne, h⟩

theorem Fresh.lt (fresh : q.Fresh id) {i : Nat} {job : Job κ} (h : q.jobs i = some job) :
    i < id := by
  by_contra ge
  simp [fresh i (not_lt.mp ge)] at h

theorem fresh_enqueue [DecidableEq κ] (fresh : q.Fresh id) : (q.enqueue id key).Fresh (id + 1) := by
  intro j le
  rw [jobs_enqueue, if_neg (by omega)]
  exact fresh j (by omega)

theorem Chain.enqueue [DecidableEq κ] (chain : q.Chain) (fresh : q.Fresh id) : (q.enqueue id key).Chain where
  tail_last k t tail i job h same := by
    rw [tails_enqueue] at tail
    obtain ⟨rfl, rfl⟩ | ⟨ne, old⟩ := enqueue_cases h
    · rw [if_pos same.symm] at tail
      exact (Option.some.inj tail).le
    · split at tail
      · exact Option.some.inj tail ▸ (fresh.lt old).le
      · exact chain.tail_last k t tail i job old same
  tail_key k t tail := by
    rw [tails_enqueue] at tail
    split at tail
    · next eq =>
      obtain rfl := Option.some.inj tail
      exact ⟨_, by rw [jobs_enqueue, if_pos rfl], eq.symm⟩
    · obtain ⟨job, old, same⟩ := chain.tail_key k t tail
      exact ⟨job, by rw [jobs_enqueue, if_neg (fresh.lt old).ne]; exact old, same⟩
  tail_none k tail i job h same := by
    rw [tails_enqueue] at tail
    split at tail
    · simp at tail
    · next ne =>
      obtain ⟨rfl, rfl⟩ | ⟨-, old⟩ := enqueue_cases h
      · exact absurd same.symm ne
      · exact chain.tail_none k tail i job old same
  prior_last i job h p prior j other h' same lt := by
    obtain ⟨rfl, rfl⟩ | ⟨-, old⟩ := enqueue_cases h
    · obtain ⟨rfl, rfl⟩ | ⟨-, old'⟩ := enqueue_cases h'
      · exact absurd lt (lt_irrefl _)
      · exact chain.tail_last key p prior j other old' same
    · obtain ⟨rfl, rfl⟩ | ⟨-, old'⟩ := enqueue_cases h'
      · exact absurd (fresh.lt old) lt.not_gt
      · exact chain.prior_last i job old p prior j other old' same lt
  prior_key i job h p prior := by
    obtain ⟨rfl, rfl⟩ | ⟨-, old⟩ := enqueue_cases h
    · obtain ⟨other, old', same⟩ := chain.tail_key key p prior
      have below := fresh.lt old'
      exact ⟨below, other, by rw [jobs_enqueue, if_neg below.ne]; exact old', same⟩
    · obtain ⟨lt, other, old', same⟩ := chain.prior_key i job old p prior
      exact ⟨lt, other, by rw [jobs_enqueue, if_neg (fresh.lt old').ne]; exact old', same⟩
  prior_none i job h prior j other h' same lt := by
    obtain ⟨rfl, rfl⟩ | ⟨-, old⟩ := enqueue_cases h
    · obtain ⟨rfl, rfl⟩ | ⟨-, old'⟩ := enqueue_cases h'
      · exact absurd lt (lt_irrefl _)
      · exact chain.tail_none key prior j other old' same
    · obtain ⟨rfl, rfl⟩ | ⟨-, old'⟩ := enqueue_cases h'
      · exact absurd (fresh.lt old) lt.not_gt
      · exact chain.prior_none i job old prior j other old' same lt
  started i job h phase j other h' same lt := by
    obtain ⟨rfl, rfl⟩ | ⟨-, old⟩ := enqueue_cases h
    · exact absurd rfl phase
    · obtain ⟨rfl, rfl⟩ | ⟨-, old'⟩ := enqueue_cases h'
      · exact absurd (fresh.lt old) lt.not_gt
      · exact chain.started i job old phase j other old' same lt

/-- A job after `setPhase` is one that was there, with its phase kept or set. -/
theorem setPhase_cases (h : (q.setPhase id phase).jobs i = some job) :
    ∃ old, q.jobs i = some old ∧ old.key = job.key ∧ old.prior = job.prior ∧
      (i = id ∧ job.phase = phase ∨ i ≠ id ∧ job.phase = old.phase) := by
  rw [jobs_setPhase] at h
  split at h
  · next eq =>
    subst eq
    obtain ⟨old, isOld, rfl⟩ := Option.map_eq_some_iff.mp h
    exact ⟨old, isOld, rfl, rfl, .inl ⟨rfl, rfl⟩⟩
  · next ne => exact ⟨job, h, rfl, rfl, .inr ⟨ne, rfl⟩⟩

/-! ### Phases -/

theorem Fresh.mono {id' : Nat} (fresh : q.Fresh id) (le : id ≤ id') : q.Fresh id' :=
  fun j le' => fresh j (le.trans le')

theorem fresh_setPhase {id' : Nat} (fresh : q.Fresh id') : (q.setPhase id phase).Fresh id' := by
  intro j le
  rw [jobs_setPhase]
  split
  · next eq => rw [← eq, fresh j le]; rfl
  · exact fresh j le

theorem InPhase.exists_job (h : q.InPhase id key phase) :
    ∃ job, q.jobs id = some job ∧ job.key = key ∧ job.phase = phase := by
  obtain ⟨prior, isJob⟩ := h
  exact ⟨_, isJob, rfl, rfl⟩

theorem InPhase.phase_eq {key' : κ} {phase phase' : Phase} (h : q.InPhase id key phase)
    (h' : q.InPhase id key' phase') : phase = phase' := by
  obtain ⟨prior, isJob⟩ := h
  obtain ⟨prior', isJob'⟩ := h'
  exact congrArg Job.phase (Option.some.inj (isJob.symm.trans isJob'))

theorem isSettled_iff : q.isSettled i ↔ ∃ key, q.InPhase i key .settled := by
  unfold isSettled InPhase
  cases q.jobs i with
  | none => simp
  | some job =>
    obtain ⟨key, prior, phase⟩ := job
    simp

theorem isReady_iff : q.isReady id ↔ q.Ready id := by
  unfold isReady Ready
  cases q.jobs id with
  | none => simp
  | some job =>
    obtain ⟨key, prior, phase⟩ := job
    simp only [Option.any_some, Bool.and_eq_true, decide_eq_true_eq, Option.all_eq_true,
      isSettled_iff, Option.some.injEq, Job.mk.injEq]
    constructor
    · rintro ⟨rfl, settled⟩
      exact ⟨key, prior, ⟨rfl, rfl, rfl⟩, settled⟩
    · rintro ⟨_, _, ⟨-, rfl, rfl⟩, settled⟩
      exact ⟨rfl, settled⟩

instance : Decidable (q.Ready id) := decidable_of_iff _ isReady_iff

theorem Ready.inPhase (ready : q.Ready id) : ∃ key, q.InPhase id key .queued := by
  obtain ⟨key, prior, isJob, -⟩ := ready
  exact ⟨key, prior, isJob⟩

theorem inPhase_enqueue [DecidableEq κ] {k : κ} : (q.enqueue id key).InPhase i k phase ↔
      if i = id then k = key ∧ phase = .queued else q.InPhase i k phase := by
  unfold InPhase
  rw [jobs_enqueue]
  split
  · simp [eq_comm]
  · rfl

theorem inPhase_setPhase {k : κ} {phase phase' : Phase} : (q.setPhase id phase).InPhase i k phase' ↔
      if i = id then phase' = phase ∧ ∃ before, q.InPhase i k before
      else q.InPhase i k phase' := by
  unfold InPhase
  rw [jobs_setPhase]
  split
  · next eq =>
    subst eq
    cases isJob : q.jobs i with
    | none => simp
    | some job =>
      obtain ⟨key, prior, before⟩ := job
      simp only [Option.map_some, Option.some.injEq, Job.mk.injEq]
      constructor
      · rintro ⟨prior', rfl, rfl, rfl⟩
        exact ⟨rfl, before, prior, rfl, rfl, rfl⟩
      · rintro ⟨rfl, before', prior', rfl, rfl, rfl⟩
        exact ⟨prior, rfl, rfl, rfl⟩
  · rfl

/-- Moving a job to a later phase keeps the chain: a job may leave `queued` once
every earlier job of its key has settled, and a settled job stays settled. -/
theorem Chain.setPhase {phase : Phase} (chain : q.Chain)
    (allowed : ∀ job, q.jobs id = some job → phase ≠ .queued →
      ∀ j other, q.jobs j = some other → other.key = job.key → j < id → other.phase = .settled)
    (kept : ∀ job, q.jobs id = some job → job.phase = .settled → phase = .settled) :
    (q.setPhase id phase).Chain where
  tail_last k t tail i job h same := by
    obtain ⟨old, isOld, key, -⟩ := setPhase_cases h
    exact chain.tail_last k t tail i old isOld (key.trans same)
  tail_key k t tail := by
    obtain ⟨job, isJob, same⟩ := chain.tail_key k t tail
    rw [jobs_setPhase]
    split
    · next eq => subst eq; exact ⟨{ job with phase }, by rw [isJob]; rfl, same⟩
    · exact ⟨job, isJob, same⟩
  tail_none k tail i job h same := by
    obtain ⟨old, isOld, key, -, ⟨rfl, eq⟩ | ⟨-, eq⟩⟩ := setPhase_cases h
    · rw [eq]
      exact kept old isOld (chain.tail_none k tail i old isOld (key.trans same))
    · rw [eq]
      exact chain.tail_none k tail i old isOld (key.trans same)
  prior_last i job h p prior j other h' same lt := by
    obtain ⟨old, isOld, key, priorEq, -⟩ := setPhase_cases h
    obtain ⟨old', isOld', key', -⟩ := setPhase_cases h'
    exact chain.prior_last i old isOld p (priorEq.trans prior) j old' isOld'
      (key'.trans (same.trans key.symm)) lt
  prior_key i job h p prior := by
    obtain ⟨old, isOld, key, priorEq, -⟩ := setPhase_cases h
    obtain ⟨lt, other, isOther, same⟩ := chain.prior_key i old isOld p (priorEq.trans prior)
    refine ⟨lt, ?_⟩
    rw [jobs_setPhase]
    split
    · next eq => subst eq; exact ⟨{ other with phase }, by rw [isOther]; rfl, same.trans key⟩
    · exact ⟨other, isOther, same.trans key⟩
  prior_none i job h prior j other h' same lt := by
    obtain ⟨old, isOld, key, priorEq, -⟩ := setPhase_cases h
    obtain ⟨old', isOld', key', -, now⟩ := setPhase_cases h'
    have before := chain.prior_none i old isOld (priorEq.trans prior) j old' isOld'
      (key'.trans (same.trans key.symm)) lt
    obtain ⟨rfl, eq⟩ | ⟨-, eq⟩ := now
    · rw [eq]; exact kept old' isOld' before
    · rw [eq]; exact before
  started i job h started j other h' same lt := by
    obtain ⟨old, isOld, key, -, now⟩ := setPhase_cases h
    obtain ⟨old', isOld', key', -, now'⟩ := setPhase_cases h'
    have sameOld := key'.trans (same.trans key.symm)
    have before : old'.phase = .settled := by
      obtain ⟨rfl, eq⟩ | ⟨-, eq⟩ := now
      · exact allowed old isOld (eq ▸ started) j old' isOld' sameOld lt
      · exact chain.started i old isOld (eq ▸ started) j old' isOld' sameOld lt
    obtain ⟨rfl, eq⟩ | ⟨-, eq⟩ := now'
    · rw [eq]; exact kept old' isOld' before
    · rw [eq]; exact before

/-- A ready job has only settled jobs of its key before it. -/
theorem Chain.before_ready (chain : q.Chain) (ready : q.Ready id) (isJob : q.jobs id = some job)
    {j : Nat} {other : Job κ} (isOther : q.jobs j = some other) (same : other.key = job.key)
    (lt : j < id) : other.phase = .settled := by
  obtain ⟨k, prior, isReady, priorSettled⟩ := ready
  obtain rfl : job = ⟨k, prior, .queued⟩ := Option.some.inj (isJob.symm.trans isReady)
  cases prior with
  | none => exact chain.prior_none id _ isReady rfl j other isOther same lt
  | some p =>
    obtain ⟨key', prior', isPrior⟩ := priorSettled p rfl
    obtain ⟨-, prior'', isPrior', priorKey⟩ := chain.prior_key id _ isReady p rfl
    obtain rfl := Option.some.inj (isPrior.symm.trans isPrior')
    obtain lt' | rfl := (chain.prior_last id _ isReady p rfl j other isOther same lt).lt_or_eq
    · exact chain.started p _ isPrior (by simp) j other isOther (same.trans priorKey.symm) lt'
    · obtain rfl := Option.some.inj (isPrior.symm.trans isOther)
      rfl

/-- A waiting job may start exactly when every earlier job of its key has settled: it waits for
no job of another key. -/
theorem Chain.ready_iff (chain : q.Chain) (isJob : q.jobs id = some job)
    (waiting : job.phase = .queued) : q.Ready id ↔
      ∀ j other, q.jobs j = some other → other.key = job.key → j < id → other.phase = .settled := by
  constructor
  · intro ready j other isOther same lt
    exact chain.before_ready ready isJob isOther same lt
  · intro before
    obtain ⟨key, prior, phase⟩ := job
    cases waiting
    refine ⟨key, prior, isJob, fun p isPrior => ?_⟩
    obtain ⟨lt, ⟨key', prior', phase'⟩, isOther, same⟩ := chain.prior_key id _ isJob p isPrior
    cases before p _ isOther same lt
    exact ⟨key', prior', isOther⟩

theorem Chain.start (chain : q.Chain) (ready : q.Ready id) : (q.setPhase id .running).Chain := by
  refine chain.setPhase (fun job isJob _ j other isOther same lt =>
    chain.before_ready ready isJob isOther same lt) fun job isJob settled => ?_
  obtain ⟨k, prior, isReady, -⟩ := ready
  obtain rfl := Option.some.inj (isJob.symm.trans isReady)
  exact absurd settled (by simp)

theorem Chain.settle (chain : q.Chain) (running : q.InPhase id key .running) :
    (q.setPhase id .settled).Chain := by
  refine chain.setPhase (fun job isJob _ j other isOther same lt => ?_) fun _ _ _ => rfl
  obtain ⟨prior, isRunning⟩ := running
  obtain rfl := Option.some.inj (isJob.symm.trans isRunning)
  exact chain.started id _ isJob (by simp) j other isOther same lt

theorem Chain.drop [DecidableEq κ] (chain : q.Chain)
    (settled : ∀ t, q.tails key = some t → q.InPhase t key .settled) : (q.drop key).Chain where
  tail_last k t tail := by
    simp only [SerialQueue.drop, Function.update_apply] at tail
    split at tail
    · simp at tail
    · exact chain.tail_last k t tail
  tail_key k t tail := by
    simp only [SerialQueue.drop, Function.update_apply] at tail
    split at tail
    · simp at tail
    · exact chain.tail_key k t tail
  tail_none k tail i job isJob same := by
    simp only [SerialQueue.drop, Function.update_apply] at tail
    split at tail
    · next eq =>
      subst eq
      cases last : q.tails k with
      | none => exact chain.tail_none k last i job isJob same
      | some t =>
        obtain ⟨prior, isTail⟩ := settled t last
        obtain lt | rfl := (chain.tail_last k t last i job isJob same).lt_or_eq
        · exact chain.started t _ isTail (by simp) i job isJob same lt
        · obtain rfl := Option.some.inj (isTail.symm.trans isJob)
          rfl
    · exact chain.tail_none k tail i job isJob same
  prior_last := chain.prior_last
  prior_key := chain.prior_key
  prior_none := chain.prior_none
  started := chain.started

/-- At most one job of a key is running. -/
theorem Chain.exclusive (chain : q.Chain) {i j : Nat} (hi : q.InPhase i key .running)
    (hj : q.InPhase j key .running) : i = j := by
  obtain ⟨prior, isI⟩ := hi
  obtain ⟨prior', isJ⟩ := hj
  obtain lt | eq | gt := lt_trichotomy i j
  · exact absurd (chain.started j _ isJ (by simp) i _ isI rfl lt) (by simp)
  · exact eq
  · exact absurd (chain.started i _ isI (by simp) j _ isJ rfl gt) (by simp)

/-- A job that has started has only settled jobs of its key before it. -/
theorem Chain.fifo (chain : q.Chain) {i j : Nat} {phase phase' : Phase}
    (hi : q.InPhase i key phase) (hj : q.InPhase j key phase') (begun : phase' ≠ .queued)
    (lt : i < j) : phase = .settled := by
  obtain ⟨prior, isI⟩ := hi
  obtain ⟨prior', isJ⟩ := hj
  exact chain.started j _ isJ begun i _ isI rfl lt

end SerialQueue

end ModemStack.Async
