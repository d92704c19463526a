import Mathlib.Data.List.Pairwise
import ModemStack.HuaweiHilink.Runtime

/-!
What the chain of writes excludes, and what it does not.

The writes to one modem run one after the other, each gives back the ownership it has taken, and
the requests of one are not mixed with those of another (`exclusive_run`). Everything else logs in
on its own: a read may log in between two requests of a write (`exclusive_fails`).
-/

namespace ModemStack.HuaweiHilink

open ModemStack.Async ModemStack.Async.Program ModemStack.Domain ModemStack.Providers
open ModemStack.Text

/-- The modem of a call. -/
def HilinkUse.modem : HilinkUse → JsString
  | .sessionProbe request | .authenticateProfile request _ => request.physicalModemId.text
  | .observe context | .capability _ context | .read _ _ context | .write _ _ context _ =>
    context.request.physicalModemId.text

def HilinkUse.isWrite : HilinkUse → Bool
  | .write _ _ _ _ => true
  | _ => false

/-- The modem that a call writes to. -/
def HilinkUse.writes (use : HilinkUse) : Option JsString :=
  if use.isWrite then some use.modem else none

abbrev HilinkLoop (ε : Type) : Type :=
  EventLoop HilinkShared HilinkUse HilinkCall HilinkCall.Answer ε HilinkOutcome

abbrev HilinkTurn (ε : Type) : Type := Turn HilinkUse HilinkCall HilinkCall.Answer ε

namespace HuaweiProvider

variable {ε : Type}

/-- A promise chain goes on once what it is chained behind has settled. -/
def InTurn (loop : HilinkLoop ε) : HilinkTurn ε → Prop
  | .start _ => True
  | .resume task _ =>
    match loop.pending task with
    | some .prior => loop.shared.serial.Ready task
    | _ => True

instance (loop : HilinkLoop ε) (turn : HilinkTurn ε) : Decidable (InTurn loop turn) := by
  unfold InTurn
  cases turn with
  | start use => exact .isTrue trivial
  | resume task answer => dsimp only; split <;> infer_instance

/-- What any calls and answers lead to from the start. -/
def run (self : HilinkOptions) (turns : List (HilinkTurn ε)) : HilinkLoop ε :=
  EventLoop.guardedRun (body self) InTurn ⟨.new, []⟩ turns

/-! ### The property -/

/-- What a task was called with. -/
def used (loop : HilinkLoop ε) (task : Nat) : Option HilinkUse := loop.tasks[task]?.map Prod.fst

/-- A task writes to a modem. -/
def Writes (loop : HilinkLoop ε) (task : Nat) (modem : JsString) : Prop :=
  ∃ use, used loop task = some use ∧ use.writes = some modem

/-- A write has begun its transaction and has not ended it. -/
def Underway (loop : HilinkLoop ε) (task : Nat) (modem : JsString) : Prop :=
  Writes loop task modem ∧ ∃ op, loop.pending task = some op ∧ op ≠ .prior

def leasesOf (s : HilinkShared) (task : Nat) : List LeaseEvent :=
  s.leases.filter fun event => event.task = task

/-- The ownership was not taken, or taken and given back once. Newest first. -/
def Balanced (task : Nat) (leases : List LeaseEvent) : Prop :=
  leases = [] ∨ ∃ lease, leases = [.released task lease, .acquired task lease]

def isLogin (options : HilinkOptions) (request : HilinkHttpRequest) : Bool :=
  request.url = options.adminUrl ++ HILINK_PATHS.login

/-- The requests in the order in which they were sent. -/
def requests (loop : HilinkLoop ε) : List Sent := loop.shared.sent.reverse

/-- From the request at `first`, a login, to the one at `last` a task sends all it sends in one
session. -/
structure InSession (options : HilinkOptions) (sent : List Sent) (task first last : Nat) : Prop where
  login : ∃ request, sent[first]? = some ⟨task, request⟩ ∧ isLogin options request
  ends : ∃ request, sent[last]? = some ⟨task, request⟩
  single : ∀ n request, first < n → n ≤ last → sent[n]? = some ⟨task, request⟩ →
    ¬ isLogin options request

/-- `Rival` says whose logins are to be excluded. -/
structure Exclusive (options : HilinkOptions) (Rival : HilinkUse → Prop) (loop : HilinkLoop ε) :
    Prop where
  apart : ∀ {i j modem}, Underway loop i modem → Underway loop j modem → i = j
  released : ∀ task modem, Writes loop task modem → (loop.outcome task).isSome →
    Balanced task (leasesOf loop.shared task)
  proceeds : ∀ task modem, Writes loop task modem → loop.pending task = some .prior →
    (∀ other, other < task → Writes loop other modem → (loop.outcome other).isSome) →
    loop.shared.serial.Ready task
  sessions : ∀ task modem first last, Writes loop task modem →
    InSession options (requests loop) task first last →
    ∀ n other request use, first < n → n < last → (requests loop)[n]? = some ⟨other, request⟩ →
      used loop other = some use → use.modem = modem → Rival use → ¬ isLogin options request

/-! ### The invariant -/

/-- What a task has to itself: its place in the chain, what it did with the ownership and the
requests it sent. -/
structure Part where
  job : Option (Job JsString)
  leases : List LeaseEvent
  sent : List Sent

def part (task : Nat) (s : HilinkShared) : Part where
  job := s.serial.jobs task
  leases := leasesOf s task
  sent := s.sent.filter fun entry => entry.task = task

/-- Nothing is sent before its turn, and what the writes to one modem send is in the order in which
they were called. -/
structure Sound (s : HilinkShared) : Prop where
  chain : s.serial.Chain
  started : ∀ entry ∈ s.sent, ∀ job, s.serial.jobs entry.task = some job → job.phase ≠ .queued
  ordered : s.sent.Pairwise fun newer older => ∀ job other, s.serial.jobs newer.task = some job →
    s.serial.jobs older.task = some other → job.key = other.key → older.task ≤ newer.task

theorem sound_new : Sound .new := ⟨SerialQueue.chain_empty, nofun, .nil⟩

section Steps

variable {s : HilinkShared} {task : Nat} {key : JsString}

/-- A task that is in no chain, or has its turn, may send. -/
theorem Sound.send (sound : Sound s) (request : HilinkHttpRequest)
    (turn : s.serial.jobs task = none ∨ s.serial.InPhase task key .running) :
    Sound (s.send task request) := by
  refine ⟨sound.chain, ?_, ?_⟩
  · intro entry mem job isJob
    rcases List.mem_cons.mp mem with rfl | old
    · rcases turn with none | ⟨prior, running⟩
      · cases none.symm.trans isJob
      · cases running.symm.trans isJob
        exact nofun
    · exact sound.started entry old job isJob
  · refine List.pairwise_cons.mpr ⟨?_, sound.ordered⟩
    intro older mem job other isJob isOther same
    rcases turn with none | ⟨prior, running⟩
    · cases none.symm.trans isJob
    · by_contra later
      have began := sound.started older mem other isOther
      have settled := sound.chain.started _ _ isOther began _ _ isJob same (Nat.lt_of_not_le later)
      cases running.symm.trans isJob
      cases settled

theorem Sound.enqueue (sound : Sound s) (fresh : s.serial.Fresh task)
    (unsent : ∀ entry ∈ s.sent, entry.task ≠ task) : Sound (s.enqueue task key) := by
  have same : ∀ entry ∈ s.sent, (s.enqueue task key).serial.jobs entry.task =
      s.serial.jobs entry.task := by
    intro entry mem
    rw [HilinkShared.enqueue, SerialQueue.jobs_enqueue, if_neg (unsent entry mem)]
  refine ⟨sound.chain.enqueue fresh, ?_, ?_⟩
  · intro entry mem job isJob
    rw [same entry mem] at isJob
    exact sound.started entry mem job isJob
  · refine sound.ordered.imp_of_mem ?_
    intro newer older newerMem olderMem ordered
    rw [same newer newerMem, same older olderMem]
    exact ordered

/-- A change of phases leaves the order of the requests alone. -/
theorem Sound.setPhase (sound : Sound s) (task : Nat) {phase : Phase} (begun : phase ≠ .queued)
    {serial : SerialQueue JsString} (chain : serial.Chain)
    (jobs : serial.jobs = (s.serial.setPhase task phase).jobs) : Sound { s with serial } := by
  refine ⟨chain, ?_, ?_⟩
  · intro entry mem job isJob
    obtain ⟨old, isOld, -, -, ⟨-, same⟩ | ⟨-, same⟩⟩ :=
      SerialQueue.setPhase_cases (show (s.serial.setPhase task phase).jobs entry.task = some job by
        rw [← jobs]; exact isJob)
    · rw [same]
      exact begun
    · rw [same]
      exact sound.started entry mem old isOld
  · refine sound.ordered.imp ?_
    intro newer older ordered job other isJob isOther same
    rw [jobs] at isJob isOther
    obtain ⟨old, isOld, key, -⟩ := SerialQueue.setPhase_cases isJob
    obtain ⟨old', isOld', key', -⟩ := SerialQueue.setPhase_cases isOther
    exact ordered old old' isOld isOld' (key.trans (same.trans key'.symm))

theorem Sound.start (sound : Sound s) (ready : s.serial.Ready task) : Sound (s.start task) :=
  sound.setPhase task (by decide : Phase.running ≠ .queued) (sound.chain.start ready) rfl

theorem Sound.finish (sound : Sound s) (running : s.serial.InPhase task key .running) :
    Sound (s.finish task key) := by
  have chain := sound.chain.settle running
  refine sound.setPhase task (by decide : Phase.settled ≠ .queued) ?_ ?_
  · split
    · next last =>
      refine chain.drop fun tail isTail => ?_
      cases last.symm.trans isTail
      exact SerialQueue.inPhase_setPhase.mpr (by simpa using ⟨_, running⟩)
    · exact chain
  · split <;> rfl

end Steps

/-! ### What the functions do -/

/-- What is written by functions that are not chained. -/
inductive Harmless (task : Nat) : (HilinkShared → HilinkShared) → Prop where
  | send (request : HilinkHttpRequest) : Harmless task (HilinkShared.send task request)
  | cache (key : JsString) (session : HilinkSession) :
      Harmless task (HilinkShared.cache key session)

abbrev Sends (task : Nat) {α : Type} (p : HilinkTask ε α) : Prop :=
  p.Does (Harmless task) (· ≠ .prior)

section Sends

open HilinkSessionRuntime

variable {self : HilinkOptions} {id : Nat}

theorem sends_request (method : HttpMethod) (path : JsString) (body : Option JsString)
    (headers : List JsString) :
    Sends id (request self id method path body headers : HilinkTask ε _) :=
  ⟨.send _, does_perform nofun⟩

variable (context : ProviderMatchRequest)

variable (profile : HilinkProfile)

theorem sends_authenticate
    (cache : Bool) : Sends id (authenticate self id context profile cache : HilinkTask ε _) := by
  refine (sends_request _ _ _ _).bind fun sessionResponse => ?_
  split
  · trivial
  · split
    · trivial
    · split
      · trivial
      · next initial _ =>
        refine (sends_request _ _ _ _).bind fun stateResponse => ?_
        split
        · trivial
        · split
          · trivial
          · split
            · trivial
            · refine (sends_request _ _ _ _).bind fun login => ?_
              split
              · trivial
              · split
                · trivial
                · dsimp only
                  split
                  · exact ⟨.cache _ _, trivial⟩
                  · trivial

theorem sends_authenticated
    (cache : Bool) :
    Sends id ((authenticate self id context profile cache).call .settled : HilinkTask ε _) :=
  (sends_authenticate context profile cache).call nofun

theorem sends_cachedSession :
    Sends id (cachedSession context : HilinkTask ε _) := fun _ => trivial

theorem sends_sessionFor (context : ProviderExecutionContext) :
    Sends id ((sessionFor self id context).call .settled : HilinkTask ε _) := by
  refine Does.call ((sends_cachedSession context.request).bind fun cached => ?_) nofun
  cases cached with
  | some => trivial
  | none =>
    dsimp only
    split
    · trivial
    · refine (sends_authenticated _ _ _).bind fun result => ?_
      cases result <;> trivial

theorem sends_authenticateProfile (candidates : List JsString) :
    Sends id (authenticateProfile self id context candidates : HilinkTask ε _) := by
  unfold authenticateProfile
  dsimp only
  split
  · trivial
  · refine (sends_authenticated _ _ _).bind fun result => ?_
    cases result <;> trivial

theorem sends_observe (context : ProviderExecutionContext) :
    Sends id (observe self id context : HilinkTask ε _) := by
  refine (sends_sessionFor context).bind fun ready => ?_
  cases ready with
  | none => trivial
  | some ready =>
    have asks : Sends id (requestAll self id ready : HilinkTask ε _) :=
      ⟨.send _, .send _, .send _, .send _, does_perform nofun⟩
    exact asks.bind fun replies => trivial

theorem sends_capability (kind : CapabilityKind) (context : ProviderExecutionContext) :
    Sends id (capability self id kind context : HilinkTask ε _) := by
  refine (sends_sessionFor context).bind fun session => ?_
  cases session with
  | none => trivial
  | some => exact (sends_request _ _ _ _).bind fun response => trivial

theorem sends_readOperation (kind : CapabilityKind) (profile : HilinkProfile)
    (context : ProviderExecutionContext) :
    Sends id (readOperation self id kind profile context : HilinkTask ε _) := by
  refine (sends_authenticated _ _ _).bind fun result => ?_
  cases result with
  | refused => trivial
  | ready =>
    refine (sends_request _ _ _ _).bind fun response => ?_
    split
    · trivial
    · split <;> trivial

theorem sends_readback (context : ProviderExecutionContext)
    (kind : WriteKind) (value : WriteValue) :
    Sends id (readback self id profile context kind value : HilinkTask ε _) := by
  refine (sends_authenticated _ _ _).bind fun fresh => ?_
  cases fresh with
  | refused => trivial
  | ready =>
    refine (sends_request _ _ _ _).bind fun readback => ?_
    split
    · trivial
    · split <;> trivial

theorem sends_writeOwned (context : ProviderExecutionContext)
    (kind : WriteKind) (value : WriteValue) :
    Sends id (writeOwned self id profile context kind value : HilinkTask ε _) := by
  refine (sends_authenticated _ _ _).bind fun ready => ?_
  cases ready with
  | refused => trivial
  | ready =>
    refine (sends_request _ _ _ _).bind fun capability => ?_
    split
    · trivial
    · split
      · trivial
      · split
        · trivial
        · refine (sends_request _ _ _ _).bind fun posted => ?_
          split
          · trivial
          · split
            · trivial
            · exact sends_readback profile context kind value

theorem sends_body {use : HilinkUse} (reads : use.writes = none) :
    Sends id (body self id use : HilinkTask ε _) := by
  cases use with
  | sessionProbe request =>
    have probes : Sends id (sessionProbe self id request : HilinkTask ε _) :=
      (sends_request _ _ _ _).bind fun response => trivial
    exact probes.bind fun _ => trivial
  | authenticateProfile request candidates =>
    exact (sends_authenticateProfile request candidates).bind fun _ => trivial
  | observe context => exact (sends_observe context).bind fun _ => trivial
  | capability kind context => exact (sends_capability kind context).bind fun _ => trivial
  | read kind profile context =>
    exact (sends_readOperation kind profile context).bind fun _ => trivial
  | write => cases reads

end Sends

/-! ### The contracts -/

/-- Where the chain has a task that awaits an operation. -/
def phaseAt : HilinkCall → Phase
  | .prior => .queued
  | _ => .running

def calls (task : Nat) (use : HilinkUse) (op : HilinkCall) (s : HilinkShared) : Prop :=
  match use.writes with
  | none => s.serial.jobs task = none
  | some modem => s.serial.InPhase task modem (phaseAt op)

/-- What a task that has settled leaves. -/
def Done (task : Nat) (use : HilinkUse) (s : HilinkShared) : Prop :=
  match use.writes with
  | none => s.serial.jobs task = none
  | some modem => s.serial.InPhase task modem .settled ∧ Balanced task (leasesOf s task)

def fair (task : Nat) (s : HilinkShared) (op : HilinkCall) (_ : Except ε op.Answer) : Prop :=
  op = .prior → s.serial.Ready task

def discipline : Discipline HilinkShared HilinkUse HilinkCall HilinkCall.Answer ε HilinkOutcome where
  invariant := Sound
  fresh task s := part task s = ⟨none, [], []⟩
  contract task use := .owned part task (fair task) (calls task use)
  done task use _ s := Done task use s

theorem discipline_lawful : (discipline : Discipline _ _ _ _ ε _).Lawful :=
  Discipline.lawful_owned (fun _ _ => rfl) fun _ _ _ same fresh => same.trans fresh

/-- A task in its turn: where the chain has it and what it did with the ownership. -/
structure At (task : Nat) (Job : Option (Job JsString) → Prop) (leases : List LeaseEvent)
    (begun s : HilinkShared) : Prop where
  sound : Sound s
  others : ∀ other, other ≠ task → part other s = part other begun
  job : Job (s.serial.jobs task)
  leases : leasesOf s task = leases

/-- The job of a write to a modem, in a phase. -/
def JobAt (modem : JsString) (phase : Phase) (job : Option (Job JsString)) : Prop :=
  ∃ prior, job = some ⟨modem, prior, phase⟩

section Meets

variable {task : Nat} {Job : Option (Job JsString) → Prop} {leases : List LeaseEvent}
  {begun s : HilinkShared} {use : HilinkUse} {modem : JsString} {self : HilinkOptions}

theorem At.send (at' : At task Job leases begun s) (request : HilinkHttpRequest)
    (turn : s.serial.jobs task = none ∨ s.serial.InPhase task modem .running) :
    At task Job leases begun (s.send task request) := by
  refine ⟨at'.sound.send request turn, fun other differs => ?_, at'.job, at'.leases⟩
  rw [← at'.others other differs]
  simp [part, HilinkShared.send, leasesOf, Ne.symm differs]

theorem At.cache (at' : At task Job leases begun s) (key : JsString) (session : HilinkSession) :
    At task Job leases begun (s.cache key session) :=
  ⟨⟨at'.sound.chain, at'.sound.started, at'.sound.ordered⟩, at'.others, at'.job, at'.leases⟩

/-- A turn that ends in an await: the task goes on as it was. -/
theorem At.rests (at' : At task Job leases begun s) (use : HilinkUse) (op : HilinkCall)
    (may : ∀ now, Job (now.serial.jobs task) → calls task use op now) :
    (discipline.contract task use : Contract _ _ _ ε).Rests Sound begun s fun now =>
      (discipline.contract task use : Contract _ _ _ ε).call op now ∧
        At task Job leases now now where
  invariant := at'.sound
  guarantee := at'.others
  later now relies sound := by
    have same : part task now = part task s := relies
    have job : Job (now.serial.jobs task) := by
      rw [show now.serial.jobs task = s.serial.jobs task from congrArg Part.job same]
      exact at'.job
    refine ⟨may now job, sound, fun other differs => rfl, job, ?_⟩
    exact (congrArg Part.leases same).trans at'.leases

/-- A task that sends, in no chain or in its turn, stands where it stood. -/
theorem At.sends {α : Type} {p : HilinkTask ε α} (at' : At task Job leases begun s)
    (modem : JsString) (sends : Sends task p)
    (turn : ∀ s : HilinkShared, Job (s.serial.jobs task) →
      s.serial.jobs task = none ∨ s.serial.InPhase task modem .running)
    (may : ∀ op now, op ≠ .prior → Job (now.serial.jobs task) → calls task use op now) :
    p.Meets Sound (discipline.contract task use) (fun _ begun s => At task Job leases begun s)
      begun s := by
  refine sends.meets (P := At task Job leases) at' ?_ ?_
  · intro update begun s harmless at'
    cases harmless with
    | send request => exact at'.send request (turn s at'.job)
    | cache key session => exact at'.cache key session
  · intro op begun s isCall at'
    exact at'.rests _ op (may op · isCall)

theorem At.ends (at' : At task Job leases begun s)
    (done : ∀ now, Job (now.serial.jobs task) → leasesOf now task = leases → Done task use now) :
    (discipline.contract task use : Contract _ _ _ ε).Rests Sound begun s (Done task use) where
  invariant := at'.sound
  guarantee := at'.others
  later now relies _ := by
    have same : part task now = part task s := relies
    have job : Job (now.serial.jobs task) := by
      rw [show now.serial.jobs task = s.serial.jobs task from congrArg Part.job same]
      exact at'.job
    exact done now job ((congrArg Part.leases same).trans at'.leases)

theorem begins_reads (reads : use.writes = none) (sound : Sound s)
    (fresh : part task s = ⟨none, [], []⟩) :
    (discipline : Discipline _ _ _ _ ε _).Begins (body self) task use s := by
  have job : s.serial.jobs task = none := congrArg Part.job fresh
  have at' : At task (· = none) [] s s :=
    ⟨sound, fun _ _ => rfl, job, congrArg Part.leases fresh⟩
  refine (at'.sends [] (sends_body reads) (fun _ => .inl) ?_).mono ?_
  · intro op now _ none
    simpa only [calls, reads] using none
  · intro outcome begun s at'
    refine at'.ends fun now none _ => ?_
    simpa only [Done, reads] using none

theorem calls_running {now : HilinkShared} (writes : use.writes = some modem) {op : HilinkCall}
    (isCall : op ≠ .prior) (job : JobAt modem .running (now.serial.jobs task)) :
    calls task use op now := by
  have running : phaseAt op = .running := by
    cases op with
    | prior => exact absurd rfl isCall
    | _ => rfl
  simp only [calls, writes, running]
  exact job

/-- A transaction gives back the ownership that it has taken. -/
theorem meets_writeTransaction (writes : use.writes = some modem) {profile : HilinkProfile}
    {context : ProviderExecutionContext} {kind : WriteKind} {value : WriteValue}
    (at' : At task (JobAt modem .running) [] begun s) :
    (writeTransaction self task profile context kind value : HilinkTask ε _).Meets Sound
      (discipline.contract task use) (fun _ begun s => ∃ leases, Balanced task leases ∧
        At task (JobAt modem .running) leases begun s) begun s := by
  have may : ∀ op (now : HilinkShared), op ≠ .prior →
      JobAt modem .running (now.serial.jobs task) → calls task use op now :=
    fun op now isCall job => calls_running writes isCall job
  rw [writeTransaction, meets_monad_bind, meets_perform]
  have rest := at'.rests (ε := ε) use .acquire (may _ · nofun)
  refine { rest with later := fun now relies inv => ?_ }
  obtain ⟨isCall, at'⟩ := rest.later now relies inv
  refine ⟨isCall, fun answer _ => ?_⟩
  cases answer with
  | error => exact ⟨[], .inl rfl, at'⟩
  | ok ownership =>
    cases ownership with
    | refused => exact ⟨[], .inl rfl, at'⟩
    | acquired lease =>
      have took : At task (JobAt modem .running) [.acquired task lease] now
          (now.acquired task lease) := by
        refine ⟨⟨at'.sound.chain, at'.sound.started, at'.sound.ordered⟩, ?_, at'.job, ?_⟩
        · intro other differs
          simp [part, HilinkShared.acquired, leasesOf, LeaseEvent.task, Ne.symm differs]
        · have none := at'.leases
          simpa [HilinkShared.acquired, leasesOf, LeaseEvent.task] using none
      rw [onOutcome_ok, meets_monad_bind, meets_modify, onOutcome_ok, meets_ensuring]
      refine (took.sends modem (sends_writeOwned profile context kind value)
        (fun _ => .inr) may).mono fun outcome begun s held => ?_
      have gave : At task (JobAt modem .running) [.released task lease, .acquired task lease]
          begun (s.released task lease) := by
        refine ⟨⟨held.sound.chain, held.sound.started, held.sound.ordered⟩, ?_, held.job, ?_⟩
        · intro other differs
          rw [← held.others other differs]
          simp [part, HilinkShared.released, leasesOf, LeaseEvent.task, Ne.symm differs]
        · have one := held.leases
          simpa [HilinkShared.released, leasesOf, LeaseEvent.task] using one
      have rest := gave.rests (ε := ε) use (.release lease) (may _ · nofun)
      rw [releaseLease, meets_monad_bind, meets_modify, onOutcome_ok]
      refine meets_perform.mpr { rest with later := fun now relies inv => ?_ }
      obtain ⟨isCall, gave⟩ := rest.later now relies inv
      refine ⟨isCall, fun answer _ => ?_⟩
      cases answer <;> exact ⟨_, .inr ⟨lease, rfl⟩, gave⟩

theorem meets_write (writes : use.writes = some modem) {profile : HilinkProfile}
    {context : ProviderExecutionContext} {kind : WriteKind} {value : WriteValue}
    (isModem : context.request.physicalModemId.text = modem) (sound : Sound s)
    (fresh : ∀ i, task ≤ i → part i s = ⟨none, [], []⟩) :
    (write self task profile context kind value : HilinkTask ε _).Meets Sound
      (discipline.contract task use) (fun _ begun s => ∃ leases, Balanced task leases ∧
        At task (JobAt modem .settled) leases begun s) s s := by
  subst isModem
  have mine := fresh task (Nat.le_refl _)
  have unsent : ∀ entry ∈ s.sent, entry.task ≠ task := by
    intro entry mem same
    have none : entry ∈ (part task s).sent := List.mem_filter.mpr ⟨mem, by simp [same]⟩
    rw [mine] at none
    cases none
  have queued : At task (JobAt context.request.physicalModemId.text .queued) [] s
      (s.enqueue task context.request.physicalModemId.text) := by
    refine ⟨sound.enqueue (fun i le => congrArg Part.job (fresh i le)) unsent, ?_, ?_,
      congrArg Part.leases mine⟩
    · intro other differs
      simp [part, HilinkShared.enqueue, SerialQueue.jobs_enqueue, differs, leasesOf]
    · exact ⟨s.serial.tails _, by rw [HilinkShared.enqueue, SerialQueue.jobs_enqueue, if_pos rfl]⟩
  rw [write, HilinkSessionRuntime.withDevice]
  simp only [meets_monad_bind, meets_modify, onOutcome_ok, meets_yield]
  have rest := queued.rests (ε := ε) use .prior fun now job => by
    simp only [calls, writes, phaseAt]
    exact job
  refine { rest with later := fun now relies inv => ?_ }
  obtain ⟨isCall, queued⟩ := rest.later now relies inv
  refine ⟨isCall, fun answer inTurn => ?_⟩
  have ready : now.serial.Ready task := inTurn rfl
  have running : At task (JobAt context.request.physicalModemId.text .running) [] now
      (now.start task) := by
    refine ⟨queued.sound.start ready, ?_, ?_, queued.leases⟩
    · intro other differs
      simp [part, HilinkShared.start, SerialQueue.jobs_setPhase, differs, leasesOf]
    · obtain ⟨prior, job⟩ := queued.job
      exact ⟨prior, by simp [HilinkShared.start, SerialQueue.jobs_setPhase, job]⟩
  rw [meets_ensuring, meets_call]
  refine (meets_writeTransaction writes running).mono ?_
  rintro outcome begun s ⟨leases, balanced, at'⟩
  have rest := at'.rests (ε := ε) use .settled fun now job =>
    calls_running writes (by simp) job
  refine { rest with later := fun now relies inv => ?_ }
  obtain ⟨isCall, at'⟩ := rest.later now relies inv
  refine ⟨isCall, fun answer _ => ?_⟩
  have ended : At task (JobAt context.request.physicalModemId.text .settled) leases now
      (now.finish task context.request.physicalModemId.text) := by
    refine ⟨at'.sound.finish at'.job, ?_, ?_, at'.leases⟩
    · intro other differs
      simp only [part, HilinkShared.finish, leasesOf]
      split <;> simp [SerialQueue.drop, SerialQueue.jobs_setPhase, differs]
    · obtain ⟨prior, job⟩ := at'.job
      refine ⟨prior, ?_⟩
      simp only [HilinkShared.finish]
      split <;> simp [SerialQueue.drop, SerialQueue.jobs_setPhase, job]
  rw [meets_modify]
  cases outcome <;> exact ⟨leases, balanced, ended⟩

theorem begins_write (writes : use.writes = some modem) (sound : Sound s)
    (fresh : ∀ i, task ≤ i → part i s = ⟨none, [], []⟩) :
    (discipline : Discipline _ _ _ _ ε _).Begins (body self) task use s := by
  cases use with
  | write kind profile context value =>
    have isModem : context.request.physicalModemId.text = modem := Option.some.inj writes
    refine meets_monad_bind.mpr ((meets_write writes isModem sound fresh).mono ?_)
    rintro outcome begun s ⟨leases, balanced, at'⟩
    have ends : (discipline.contract task (.write kind profile context value) :
        Contract _ _ _ ε).Rests Sound begun s (Done task (.write kind profile context value)) := by
      refine at'.ends fun now job same => ?_
      simp only [Done, writes]
      exact ⟨job, by rw [same]; exact balanced⟩
    cases outcome <;> exact ends
  | _ => cases writes

end Meets

/-! ### Runs -/

variable {self : HilinkOptions}

theorem kept_run (self : HilinkOptions) (turns : List (HilinkTurn ε)) :
    discipline.Kept (run self turns) := by
  obtain ⟨taken, allows, same⟩ :=
    EventLoop.exists_allows_guardedRun InTurn (⟨.new, []⟩ : HilinkLoop ε) turns
  rw [run, same]
  refine (Discipline.kept_empty sound_new fun _ => rfl).run discipline_lawful ?_ ?_ allows
  · intro loop use kept _
    cases writes : use.writes with
    | none => exact begins_reads writes kept.invariant (kept.fresh _ (Nat.le_refl _))
    | some => exact begins_write writes kept.invariant kept.fresh
  · intro loop task answer kept allowed use op next awaits isPrior
    subst isPrior
    have pending : loop.pending task = some .prior := by rw [EventLoop.pending, awaits]; rfl
    simpa only [InTurn, pending] using allowed

variable {loop : HilinkLoop ε}

/-- Where the chain has each task. -/
theorem job_of_used (kept : discipline.Kept loop) {task : Nat} {use : HilinkUse}
    (isUsed : used loop task = some use) :
    (∃ op, loop.pending task = some op ∧ calls task use op loop.shared) ∨
      (loop.outcome task).isSome ∧ Done task use loop.shared := by
  obtain ⟨⟨use', p⟩, found, rfl⟩ := Option.map_eq_some_iff.mp isUsed
  have stands := kept.tasks task use' p found
  have relies := discipline_lawful.refl (ε := ε) task use' loop.shared
  have isPending : loop.pending task = p.pending := by rw [EventLoop.pending, found]; rfl
  have isOutcome : loop.outcome task = p.outcome := by rw [EventLoop.outcome, found]; rfl
  rw [isPending, isOutcome]
  cases p with
  | ret | fail => exact .inr ⟨rfl, stands _ relies kept.invariant⟩
  | await op next => exact .inl ⟨op, rfl, (stands _ relies kept.invariant).1⟩
  | read | write => exact stands.elim

theorem job_of_writes (kept : discipline.Kept loop) {task : Nat} {modem : JsString}
    (writes : Writes loop task modem) :
    (∃ op, loop.pending task = some op ∧
        loop.shared.serial.InPhase task modem (phaseAt op)) ∨
      (loop.outcome task).isSome ∧ loop.shared.serial.InPhase task modem .settled ∧
        Balanced task (leasesOf loop.shared task) := by
  obtain ⟨use, isUsed, writes⟩ := writes
  rcases job_of_used kept isUsed with ⟨op, pending, isCall⟩ | ⟨ended, done⟩
  · simp only [calls, writes] at isCall
    exact .inl ⟨op, pending, isCall⟩
  · simp only [Done, writes] at done
    exact .inr ⟨ended, done⟩

/-- Only writes are in the chain. -/
theorem writes_of_job (kept : discipline.Kept loop) {task : Nat} {use : HilinkUse}
    (isUsed : used loop task = some use) {job : Job JsString}
    (isJob : loop.shared.serial.jobs task = some job) : use.writes = some job.key := by
  cases writes : use.writes with
  | none =>
    have noJob : loop.shared.serial.jobs task = none := by
      rcases job_of_used kept isUsed with ⟨op, -, isCall⟩ | ⟨-, done⟩
      · simpa only [calls, writes] using isCall
      · simpa only [Done, writes] using done
    cases noJob.symm.trans isJob
  | some modem =>
    have inChain : ∃ phase, loop.shared.serial.InPhase task modem phase := by
      rcases job_of_writes kept ⟨use, isUsed, writes⟩ with ⟨op, -, at'⟩ | ⟨-, at', -⟩
      · exact ⟨_, at'⟩
      · exact ⟨_, at'⟩
    obtain ⟨phase, prior, at'⟩ := inChain
    cases at'.symm.trans isJob
    rfl

theorem ordered_requests (sound : Sound loop.shared) {m n : Nat} {earlier later : Sent}
    (lt : m < n) (isEarlier : (requests loop)[m]? = some earlier)
    (isLater : (requests loop)[n]? = some later) {job other : Job JsString}
    (isJob : loop.shared.serial.jobs later.task = some job)
    (isOther : loop.shared.serial.jobs earlier.task = some other) (same : job.key = other.key) :
    earlier.task ≤ later.task := by
  have ordered := List.pairwise_reverse.mpr sound.ordered
  obtain ⟨ltM, rfl⟩ := List.getElem?_eq_some_iff.mp isEarlier
  obtain ⟨ltN, rfl⟩ := List.getElem?_eq_some_iff.mp isLater
  exact List.pairwise_iff_getElem.mp ordered m n ltM ltN lt job other isJob isOther same

theorem running_of_underway (kept : discipline.Kept loop) {task : Nat} {modem : JsString}
    (underway : Underway loop task modem) : loop.shared.serial.InPhase task modem .running := by
  obtain ⟨writes, op, pending, isCall⟩ := underway
  rcases job_of_writes kept writes with ⟨op', pending', at'⟩ | ⟨ended, -⟩
  · cases pending.symm.trans pending'
    cases op with
    | prior => exact absurd rfl isCall
    | _ => exact at'
  · obtain ⟨outcome, ended⟩ := Option.isSome_iff_exists.mp ended
    cases (EventLoop.pending_of_outcome ended).symm.trans pending

/-- What a write that has settled leaves. -/
theorem settled_of_writes (kept : discipline.Kept loop) {task : Nat} {modem : JsString}
    (writes : Writes loop task modem) (ended : (loop.outcome task).isSome) :
    loop.shared.serial.InPhase task modem .settled ∧
      Balanced task (leasesOf loop.shared task) := by
  rcases job_of_writes kept writes with ⟨op, pending, -⟩ | ⟨-, done⟩
  · obtain ⟨outcome, ended⟩ := Option.isSome_iff_exists.mp ended
    cases (EventLoop.pending_of_outcome ended).symm.trans pending
  · exact done

/-- A write waits for the writes to its modem that have not settled, and for nothing else. -/
theorem ready_of_settled (kept : discipline.Kept loop) {task : Nat} {modem : JsString}
    (queued : loop.shared.serial.InPhase task modem .queued)
    (settled : ∀ other, other < task → Writes loop other modem → (loop.outcome other).isSome) :
    loop.shared.serial.Ready task := by
  obtain ⟨prior, isJob⟩ := queued
  refine (kept.invariant.chain.ready_iff isJob rfl).mpr fun j other isOther same lt => ?_
  have called : ∃ use, used loop j = some use := by
    by_contra unused
    have fresh : part j loop.shared = ⟨none, [], []⟩ := by
      refine kept.fresh j (Nat.le_of_not_lt fun inLoop => unused ?_)
      exact ⟨_, by rw [used, List.getElem?_eq_getElem inLoop]; rfl⟩
    cases (congrArg Part.job fresh).symm.trans isOther
  obtain ⟨use, isUsed⟩ := called
  have writes := writes_of_job kept isUsed isOther
  rw [same] at writes
  obtain ⟨⟨prior', at'⟩, -⟩ :=
    settled_of_writes kept ⟨use, isUsed, writes⟩ (settled j lt ⟨use, isUsed, writes⟩)
  cases at'.symm.trans isOther
  rfl

theorem exists_job (kept : discipline.Kept loop) {task : Nat} {modem : JsString}
    (writes : Writes loop task modem) :
    ∃ job, loop.shared.serial.jobs task = some job ∧ job.key = modem := by
  rcases job_of_writes kept writes with ⟨op, -, prior, at'⟩ | ⟨-, ⟨prior, at'⟩, -⟩
  · exact ⟨_, at', rfl⟩
  · exact ⟨_, at', rfl⟩

/-- In every run: the writes to one modem do not overlap, each gives back the ownership that it has
taken once, whatever happens to it, none waits for a write that has settled, and while one is in a
session no other logs in. -/
theorem exclusive_run (self : HilinkOptions) (turns : List (HilinkTurn ε)) :
    Exclusive self (fun use => use.isWrite = true) (run self turns) := by
  have kept := kept_run self turns
  generalize run self turns = loop at kept
  constructor
  · intro i j modem first second
    exact kept.invariant.chain.exclusive (running_of_underway kept first)
      (running_of_underway kept second)
  · intro task modem writes ended
    exact (settled_of_writes kept writes ended).2
  · intro task modem writes pending settled
    rcases job_of_writes kept writes with ⟨op, pending', queued⟩ | ⟨ended, -⟩
    · cases pending.symm.trans pending'
      exact ready_of_settled kept queued settled
    · obtain ⟨outcome, ended⟩ := Option.isSome_iff_exists.mp ended
      cases (EventLoop.pending_of_outcome ended).symm.trans pending
  · intro task modem first last writes session n other request use ltFirst ltLast isEntry isUsed
      sameModem isWrite
    have rival : use.writes = some modem := by rw [HilinkUse.writes, if_pos isWrite, sameModem]
    obtain ⟨job, isJob, isKey⟩ := exists_job kept writes
    obtain ⟨job', isJob', isKey'⟩ := exists_job kept ⟨use, isUsed, rival⟩
    have same : job.key = job'.key := isKey.trans isKey'.symm
    obtain ⟨opening, isFirst, -⟩ := session.login
    obtain ⟨closing, isLast⟩ := session.ends
    -- It was sent after a request of the task and before one, so the task has sent it.
    have after := ordered_requests kept.invariant ltFirst isFirst isEntry isJob' isJob same.symm
    have before := ordered_requests kept.invariant ltLast isEntry isLast isJob isJob' same
    obtain rfl : task = other := Nat.le_antisymm after before
    exact session.single n request ltFirst (Nat.le_of_lt ltLast) isEntry

/-! ### A read that logs in -/

def options : HilinkOptions :=
  ⟨js "eth9", js "http://192.168.8.1", ⟨js "admin", js "secret"⟩, id⟩

def context : ProviderExecutionContext :=
  ⟨⟨⟨js "usb:1", by decide⟩, 1, .network, [], js "rndis", none⟩,
    js "e3372h-22.333-password-type-4"⟩

def profile : HilinkProfile := ⟨js "e3372h-22.333-password-type-4", js "22.333.01.00.00", .four⟩

/-- What the device answers. -/
def replies (request : HilinkHttpRequest) : HilinkHttpResponse :=
  let path := request.url.drop (js "http://192.168.8.1").length
  if path = HILINK_PATHS.session then
    ⟨200, js "<response><SesInfo>c</SesInfo><TokInfo>t</TokInfo></response>", []⟩
  else if path = HILINK_PATHS.loginState then
    ⟨200, js "<response><State>-1</State><password_type>4</password_type></response>", []⟩
  else if path = HILINK_PATHS.data ∧ request.method = .get then
    ⟨200, js "<response><dataswitch>1</dataswitch></response>", []⟩
  else ⟨200, js "<response>OK</response>", []⟩

def answers : (op : HilinkCall) → Except Unit op.Answer
  | .request request => .ok (replies request)
  | .requestAll requests => .ok ⟨replies requests.status, replies requests.signal,
      replies requests.modeList, replies requests.mode⟩
  | .acquire => .ok (.acquired 0)
  | .release _ => .ok ()
  | .prior => .ok ()
  | .settled => .ok ()

def answered (task times : Nat) : List (HilinkTurn Unit) :=
  List.replicate times (.resume task answers)

/-- A write has logged in and asked for its capability when a read logs in. -/
def mixed : List (HilinkTurn Unit) :=
  .start (.write .data profile context (.flag true)) :: answered 0 6 ++
    .start (.read .data profile context) :: answered 1 2 ++ answered 0 1

theorem exclusive_fails : ¬ Exclusive options (fun _ => True) (run options mixed) := by
  intro exclusive
  have sent : ((requests (run options mixed)).map fun entry =>
      (entry.task, isLogin options entry.request)) =
      [(0, false), (0, false), (0, true), (0, false), (1, false), (1, false), (1, true),
        (0, false)] := by
    decide
  have entry (n : Nat) := congrArg (fun l => l[n]?) sent
  simp only [List.getElem?_map] at entry
  have writer : (used (run options mixed) 0).map HilinkUse.writes = some (some (js "usb:1")) := by
    decide
  have reader : (used (run options mixed) 1).map HilinkUse.modem = some (js "usb:1") := by
    decide
  obtain ⟨write, isWrite, writes⟩ := Option.map_eq_some_iff.mp writer
  obtain ⟨read, isRead, modem⟩ := Option.map_eq_some_iff.mp reader
  obtain ⟨⟨task, login⟩, isFirst, first⟩ := Option.map_eq_some_iff.mp (entry 2)
  obtain ⟨⟨other, request⟩, isSecond, second⟩ := Option.map_eq_some_iff.mp (entry 6)
  obtain ⟨⟨task', post⟩, isLast, last⟩ := Option.map_eq_some_iff.mp (entry 7)
  cases (Prod.mk.inj first).1
  cases (Prod.mk.inj second).1
  cases (Prod.mk.inj last).1
  refine exclusive.sessions 0 (js "usb:1") 2 7 ⟨write, isWrite, writes⟩ ?_ 6 1 request read
    (by decide) (by decide) isSecond isRead modem trivial (Prod.mk.inj second).2
  refine ⟨⟨login, isFirst, (Prod.mk.inj first).2⟩, ⟨post, isLast⟩, fun n request after upTo sent => ?_⟩
  have shown := entry n
  rw [sent] at shown
  have which : n = 3 ∨ n = 4 ∨ n = 5 ∨ n = 6 ∨ n = 7 := by omega
  rcases which with rfl | rfl | rfl | rfl | rfl <;>
    simp at shown <;> simp [shown]

end HuaweiProvider

end ModemStack.HuaweiHilink
