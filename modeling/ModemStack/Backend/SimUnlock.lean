import ModemStack.Async.Alone
import ModemStack.Backend.ManagedObjects
import ModemStack.Data.OrderedMap

/-!
Unlocking a SIM: the lock state is read, a PIN or a PUK submitted, and the lock state read again
when that fails.

A failed submission is reported as a rejected code whatever it failed with, and the second read is
not guarded (`unlock_iff`).
-/

namespace ModemStack.Backend

open ModemStack.Async ModemStack.Data ModemStack.Text

/-! ### The lock state -/

def LOCK_SIM_PIN : DbusNumber := .integer 2

def LOCK_SIM_PUK : DbusNumber := .integer 4

def LOCK_SIM_PUK2 : DbusNumber := .integer 5

structure LockState where
  required : DbusNumber
  retries : OrderedMap DbusNumber DbusNumber

/-- An entry of `UnlockRetries`: a lock and its number of attempts. -/
def retryEntry : DbusValue → Option (DbusNumber × DbusNumber)
  | .array (.number lock :: .number attempts :: _) => some (lock, attempts)
  | _ => none

def readLockState (tree : DecodedManagedObjects) (modemPath : JsString) : Option LockState :=
  (findInterface tree modemPath modemIface).map fun modem =>
    { required := (numberProp (some modem) (js "UnlockRequired")).getD (.integer 0)
      retries :=
        match propValue (some modem) (js "UnlockRetries") with
        | some (.array raw) => .ofItems (raw.filterMap retryEntry)
        | _ => .empty }

def activeSimPath (tree : DecodedManagedObjects) (modemPath : JsString) : Option JsString :=
  (stringProp (findInterface tree modemPath modemIface) (js "Sim")).filter fun path =>
    (js "/").isPrefixOf path && path ≠ js "/"

def isPukLock (lock : DbusNumber) : Bool := lock = LOCK_SIM_PUK || lock = LOCK_SIM_PUK2

/-! ### Calls -/

/-- What a call fails with: the name of a D-Bus error, no reply in time, a connection that dropped,
or anything else. -/
inductive CallFailure where
  | error (name : JsString)
  | timeout
  | disconnected
  | other
deriving DecidableEq

inductive SimCall where
  | getManagedObjects
  | sendPin (path pin : JsString)
  | sendPuk (path puk newPin : JsString)
deriving DecidableEq

/-- A body whose first value is no array has no tree. -/
@[reducible] def SimCall.Answer : SimCall → Type
  | .getManagedObjects => Option DecodedManagedObjects
  | _ => Unit

def SimCall.submits : SimCall → Bool
  | .getManagedObjects => false
  | _ => true

abbrev SimTask (α : Type) : Type := Program Unit SimCall SimCall.Answer CallFailure α

def fetchManagedObjects : SimTask DecodedManagedObjects := do
  let body : Option DecodedManagedObjects ← Program.perform SimCall.getManagedObjects
  match body with
  | some tree => pure tree
  | none => .fail .other

/-- What `sendSimPin` and `sendSimPuk` share: which lock states are settled without a code, how the
code is submitted at the path of the SIM, and what is made of a submission that fails. -/
def submitCode {α : Type} (modemPath : JsString) (error : JsString → α) (secret : JsString)
    (settled : LockState → Option α) (code : JsString → SimCall) (accepted : α)
    (classify : LockState → SimTask α) : SimTask α := do
  match ← fetchManagedObjects.attempt with
  | .error _ =>
    pure (error (js "could not read modem lock state before " ++ secret ++ js " submit"))
  | .ok tree =>
    match readLockState tree modemPath with
    | none => pure (error (js "modem not found while reading lock state"))
    | some state =>
      match settled state with
      | some result => pure result
      | none =>
        match activeSimPath tree modemPath with
        | none => pure (error (js "no active SIM object to submit the " ++ secret ++ js " to"))
        | some simPath =>
          match ← (Program.perform (code simPath)).attempt with
          | .ok _ => pure accepted
          | .error _ => classify state

/-! ### PIN -/

inductive SimUnlockOutcome where
  | unlocked
  | incorrectPin
  | simPukRequired
  | unsupported
  | error
deriving DecidableEq

structure SimUnlockResult where
  outcome : SimUnlockOutcome
  remainingAttempts : Option DbusNumber
  reason : JsString

def classifyPinFailure (modemPath : JsString) : SimTask SimUnlockResult := do
  let tree ← fetchManagedObjects
  let state := readLockState tree modemPath
  if state.any fun state => isPukLock state.required then
    pure ⟨.simPukRequired, none, js "wrong PIN tripped the SIM into a PUK lock"⟩
  else
    let remaining := state.bind fun state => state.retries.get LOCK_SIM_PIN
    pure ⟨.incorrectPin, remaining, js "PIN was rejected"⟩

def sendSimPin (modemPath pin : JsString) : SimTask SimUnlockResult :=
  submitCode modemPath (fun reason => ⟨.error, none, reason⟩) (js "PIN")
    (fun state =>
      if isPukLock state.required then
        some ⟨.simPukRequired, none, js "SIM is PUK-locked; a PIN cannot clear it"⟩
      else if state.required ≠ LOCK_SIM_PIN then some ⟨.unlocked, none, js "no SIM PIN is pending"⟩
      else none)
    (fun simPath => .sendPin simPath pin) ⟨.unlocked, none, js "PIN accepted"⟩
    (fun _ => classifyPinFailure modemPath)

/-! ### PUK -/

inductive SimPukUnlockOutcome where
  | unlocked
  | incorrectPuk
  | permanentlyBlocked
  | unsupported
  | error
deriving DecidableEq

structure SimPukUnlockResult where
  outcome : SimPukUnlockOutcome
  remainingAttempts : Option DbusNumber
  reason : JsString

def classifyPukFailure (modemPath : JsString) (pukKind : DbusNumber) :
    SimTask SimPukUnlockResult := do
  let tree ← fetchManagedObjects
  let remaining := (readLockState tree modemPath).bind fun state => state.retries.get pukKind
  if remaining = some (.integer 0) then
    pure ⟨.permanentlyBlocked, some (.integer 0),
      js "PUK attempts exhausted; SIM is permanently locked"⟩
  else pure ⟨.incorrectPuk, remaining, js "PUK was rejected"⟩

def sendSimPuk (modemPath puk newPin : JsString) : SimTask SimPukUnlockResult :=
  submitCode modemPath (fun reason => ⟨.error, none, reason⟩) (js "PUK")
    (fun state =>
      if !isPukLock state.required then some ⟨.unlocked, none, js "no SIM PUK is pending"⟩
      else none)
    (fun simPath => .sendPuk simPath puk newPin) ⟨.unlocked, none, js "PUK accepted; new PIN set"⟩
    (fun state => classifyPukFailure modemPath state.required)

/-! ### The property -/

def LockState.AsksPin (state : LockState) : Prop := state.required = LOCK_SIM_PIN

def LockState.AsksPuk (state : LockState) : Prop := isPukLock state.required = true

section Truthful

variable {α ω : Type} (world : (op : SimCall) → ω → Except CallFailure op.Answer × ω) (w : ω)

/-- The tree that is read, if the call is answered with one. -/
def readTree : Option DecodedManagedObjects :=
  match (world .getManagedObjects w).1 with
  | .ok body => body
  | .error _ => none

/-- A code is submitted at most once, right after a lock state was read that asks for it, and what
is said of it is what the SIM has answered. `rejects` are the names of the errors by which a SIM
rejects a code. -/
structure Truthful (task : SimTask α) (modemPath : JsString) (pending : LockState → Prop)
    (code : JsString → SimCall) (unlocked rejected : α → Prop) (rejects : JsString → Bool) :
    Prop where
  resolves : ∃ result, (task.alone world () w).1 = .ok result
  once : ((task.callsAlone world () w).filter fun call => call.1.submits).length ≤ 1
  asked : ∀ before call after, task.callsAlone world () w = before ++ call :: after →
    call.1.submits = true → before = [(.getManagedObjects, (), w)] ∧ ∃ tree state simPath,
      readTree world w = some tree ∧ readLockState tree modemPath = some state ∧ pending state ∧
        activeSimPath tree modemPath = some simPath ∧ call.1 = code simPath
  accepted : ∀ result, (task.alone world () w).1 = .ok result → unlocked result →
    (∃ call ∈ task.callsAlone world () w, call.1.submits = true ∧
      ∃ reply, (world call.1 call.2.2).1 = .ok reply) ∨
    ∃ tree state, readTree world w = some tree ∧ readLockState tree modemPath = some state ∧
      ¬ pending state
  rejected : ∀ result, (task.alone world () w).1 = .ok result → rejected result →
    ∃ call ∈ task.callsAlone world () w, call.1.submits = true ∧
      ∃ name, (world call.1 call.2.2).1 = .error (.error name) ∧ rejects name = true

/-- If a code is submitted and that fails, the lock state can be read again, and the SIM has
rejected the code or the lock state read again says enough. -/
def FailureKnown (modemPath : JsString) (pending : LockState → Prop) (code : JsString → SimCall)
    (excused : Option LockState → Prop) (rejects : JsString → Bool) : Prop :=
  ∀ tree state simPath, readTree world w = some tree →
    readLockState tree modemPath = some state → pending state →
    activeSimPath tree modemPath = some simPath →
    ∀ failure, (world (code simPath) (world .getManagedObjects w).2).1 = .error failure →
      ∃ tree', readTree world (world (code simPath) (world .getManagedObjects w).2).2 = some tree' ∧
        ((∃ name, failure = .error name ∧ rejects name = true) ∨
          excused (readLockState tree' modemPath))

variable {world w}

/-! ### Reads -/

theorem callsAlone_fetch :
    fetchManagedObjects.callsAlone world () w = [(.getManagedObjects, (), w)] := by
  simp only [fetchManagedObjects, Program.callsAlone_monad_bind, Program.callsAlone_perform,
    Program.alone_perform]
  cases (world .getManagedObjects w).1 with
  | error => rfl
  | ok body => cases body <;> rfl

theorem alone_fetch (world : (op : SimCall) → ω → Except CallFailure op.Answer × ω) (w : ω) :
    (∃ tree, readTree world w = some tree ∧
        fetchManagedObjects.alone world () w = (.ok tree, (), (world .getManagedObjects w).2)) ∨
      readTree world w = none ∧ ∃ failure, fetchManagedObjects.alone world () w =
        (.error failure, (), (world .getManagedObjects w).2) := by
  simp only [fetchManagedObjects, Program.alone_monad_bind, Program.alone_perform, readTree]
  cases (world .getManagedObjects w).1 with
  | error failure => exact .inr ⟨rfl, failure, rfl⟩
  | ok body =>
    cases body with
    | none => exact .inr ⟨rfl, .other, rfl⟩
    | some tree => exact .inl ⟨tree, rfl, rfl⟩

/-! ### Runs -/

variable {modemPath : JsString} {error : JsString → α} {secret : JsString}
  {settled : LockState → Option α} {code : JsString → SimCall} {accepted : α}
  {classify : LockState → SimTask α}

/-- The lock state that is read asks for a code, and there is a SIM to submit it to. -/
structure Submits (world : (op : SimCall) → ω → Except CallFailure op.Answer × ω) (w : ω)
    (modemPath : JsString) (settled : LockState → Option α) (state : LockState)
    (simPath : JsString) : Prop where
  intro ::
  read : ∃ tree, readTree world w = some tree ∧ readLockState tree modemPath = some state ∧
    activeSimPath tree modemPath = some simPath
  asks : settled state = none

/-- Nothing is submitted, or the code is, which is accepted or fails. -/
theorem submitCode_cases (world : (op : SimCall) → ω → Except CallFailure op.Answer × ω) (w : ω)
    (modemPath : JsString) (error : JsString → α) (secret : JsString)
    (settled : LockState → Option α) (code : JsString → SimCall) (accepted : α)
    (classify : LockState → SimTask α) :
    let task := submitCode modemPath error secret settled code accepted classify
    let w' := (world .getManagedObjects w).2
    (task.callsAlone world () w = [(.getManagedObjects, (), w)] ∧
        (∀ state simPath, ¬ Submits world w modemPath settled state simPath) ∧ ∃ result,
          (task.alone world () w).1 = .ok result ∧ ((∃ reason, result = error reason) ∨
            ∃ tree state, readTree world w = some tree ∧
              readLockState tree modemPath = some state ∧ settled state = some result)) ∨
      ∃ state simPath, Submits world w modemPath settled state simPath ∧
        ((∃ reply, (world (code simPath) w').1 = .ok reply ∧
            (task.alone world () w).1 = .ok accepted ∧
            task.callsAlone world () w =
              [(.getManagedObjects, (), w), (code simPath, (), w')]) ∨
          ∃ failure, (world (code simPath) w').1 = .error failure ∧
            (task.alone world () w).1 =
              ((classify state).alone world () (world (code simPath) w').2).1 ∧
            task.callsAlone world () w =
              [(.getManagedObjects, (), w), (code simPath, (), w')] ++
                (classify state).callsAlone world () (world (code simPath) w').2) := by
  intro task w'
  simp only [task, submitCode, Program.alone_monad_bind, Program.callsAlone_monad_bind,
    Program.alone_attempt, Program.callsAlone_attempt, callsAlone_fetch]
  rcases alone_fetch world w with ⟨tree, isTree, read⟩ | ⟨noTree, failure, read⟩
  swap
  · rw [read]
    refine .inl ⟨rfl, fun state simPath submits => ?_, _, rfl, .inl ⟨_, rfl⟩⟩
    obtain ⟨tree, isTree, _⟩ := submits.read
    cases noTree.symm.trans isTree
  rw [read]
  simp only
  have only {state : LockState} {simPath : JsString}
      (submits : Submits world w modemPath settled state simPath) :
      readLockState tree modemPath = some state ∧ activeSimPath tree modemPath = some simPath := by
    obtain ⟨tree', isTree', isState, isPath⟩ := submits.read
    cases isTree.symm.trans isTree'
    exact ⟨isState, isPath⟩
  cases isState : readLockState tree modemPath with
  | none =>
    refine .inl ⟨rfl, fun state simPath submits => ?_, _, rfl, .inl ⟨_, rfl⟩⟩
    cases isState.symm.trans (only submits).1
  | some state =>
    cases isSettled : settled state with
    | some result =>
      simp only [isSettled]
      refine .inl ⟨rfl, fun state' simPath submits => ?_, result, rfl,
        .inr ⟨tree, state, isTree, isState, isSettled⟩⟩
      cases isState.symm.trans (only submits).1
      cases isSettled.symm.trans submits.asks
    | none =>
      simp only [isSettled]
      cases isPath : activeSimPath tree modemPath with
      | none =>
        refine .inl ⟨rfl, fun state' simPath submits => ?_, _, rfl, .inl ⟨_, rfl⟩⟩
        cases isPath.symm.trans (only submits).2
      | some simPath =>
        refine .inr ⟨state, simPath, ⟨⟨tree, isTree, isState, isPath⟩, isSettled⟩, ?_⟩
        simp only [Program.alone_monad_bind, Program.callsAlone_monad_bind,
          Program.alone_attempt, Program.callsAlone_attempt, Program.alone_perform,
          Program.callsAlone_perform]
        cases isAnswer : (world (code simPath) w').1 with
        | ok reply => exact .inl ⟨reply, rfl, rfl, rfl⟩
        | error failure => exact .inr ⟨failure, rfl, rfl, rfl⟩

variable {rest : List (SimCall × Unit × ω)}

variable {w' : ω}

/-- The submission is the second call, and the only one. -/
theorem submission_second {op : SimCall} (quiet : ∀ call ∈ rest, call.1.submits = false) :
    ∀ before call after, [(.getManagedObjects, (), w), (op, (), w')] ++ rest =
        before ++ call :: after → call.1.submits = true →
      before = [(.getManagedObjects, (), w)] ∧ call = (op, (), w') := by
  intro before call after split isSubmission
  match before with
  | [] =>
    cases split
    cases isSubmission
  | [first] =>
    cases split
    exact ⟨rfl, rfl⟩
  | first :: second :: before =>
    have inRest : call ∈ rest := by
      have tails := congrArg (List.drop 2) split
      simp only [List.cons_append, List.drop_succ_cons, List.drop_zero, List.nil_append] at tails
      rw [tails]
      exact List.mem_append_right _ List.mem_cons_self
    exact absurd isSubmission (by rw [quiet call inRest]; exact Bool.false_ne_true)

theorem submissions_length {op : SimCall} (quiet : ∀ call ∈ rest, call.1.submits = false) :
    (([(SimCall.getManagedObjects, (), w), (op, (), w')] ++ rest).filter fun call =>
      call.1.submits).length ≤ 1 := by
  have none : rest.filter (fun call => call.1.submits) = [] := by
    rw [List.filter_eq_nil_iff]
    intro call mem
    rw [quiet call mem]
    exact Bool.false_ne_true
  rw [List.filter_append, none, List.append_nil,
    List.filter_cons_of_neg (by exact Bool.false_ne_true)]
  exact List.length_filter_le _ _

theorem mem_of_submits {op : SimCall} (quiet : ∀ call ∈ rest, call.1.submits = false)
    {call : SimCall × Unit × ω} (mem : call ∈ [(.getManagedObjects, (), w), (op, (), w')] ++ rest)
    (isSubmission : call.1.submits = true) : call = (op, (), w') := by
  obtain ⟨before, after, split⟩ := List.mem_iff_append.mp mem
  exact (submission_second quiet before call after split isSubmission).2

/-! ### What is reported -/

/-- What the results say, and how a submission that fails is classified: by the lock state that is
read again. -/
structure Reporting (modemPath : JsString) (error : JsString → α) (settled : LockState → Option α)
    (code : JsString → SimCall) (accepted : α) (classify : LockState → SimTask α)
    (pending : LockState → Prop) (unlocked rejected : α → Prop)
    (excused : Option LockState → Prop) : Prop where
  settles : ∀ state, settled state = none ↔ pending state
  settledResult : ∀ state result, settled state = some result → ¬ rejected result
  errorResult : ∀ reason, ¬ unlocked (error reason) ∧ ¬ rejected (error reason)
  acceptedResult : ¬ rejected accepted
  submits : ∀ simPath, (code simPath).submits = true
  classifies : ∃ report : LockState → Option LockState → α,
    (∀ state, classify state =
      fetchManagedObjects.bind fun tree => .ret (report state (readLockState tree modemPath))) ∧
    ∀ state again, ¬ unlocked (report state again) ∧
      (rejected (report state again) ↔ ¬ excused again)

/-- The second read is not guarded. -/
theorem alone_classify (world : (op : SimCall) → ω → Except CallFailure op.Answer × ω) (w : ω)
    {state : LockState} {report : LockState → Option LockState → α}
    (classifies : classify state =
      fetchManagedObjects.bind fun tree => .ret (report state (readLockState tree modemPath))) :
    (classify state).callsAlone world () w = [(.getManagedObjects, (), w)] ∧
      ((∃ tree, readTree world w = some tree ∧ ((classify state).alone world () w).1 =
          .ok (report state (readLockState tree modemPath))) ∨
        readTree world w = none ∧
          ∃ failure, ((classify state).alone world () w).1 = .error failure) := by
  rw [classifies, Program.callsAlone_bind, callsAlone_fetch, Program.alone_bind]
  rcases alone_fetch world w with ⟨tree, isTree, read⟩ | ⟨noTree, failure, read⟩
  · rw [read]
    exact ⟨rfl, .inl ⟨tree, isTree, rfl⟩⟩
  · rw [read]
    exact ⟨rfl, .inr ⟨noTree, failure, rfl⟩⟩

/-- A code that is submitted was asked for, and is submitted once. -/
theorem asked_of_calls {pending : LockState → Prop} {unlocked rejected : α → Prop}
    {excused : Option LockState → Prop}
    (reporting : Reporting modemPath error settled code accepted classify pending unlocked rejected
      excused)
    {state : LockState} {simPath : JsString}
    (submits : Submits world w modemPath settled state simPath)
    {calls rest : List (SimCall × Unit × ω)}
    (isCalls : calls =
      [(.getManagedObjects, (), w), (code simPath, (), (world .getManagedObjects w).2)] ++ rest)
    (quiet : ∀ call ∈ rest, call.1.submits = false) :
    (calls.filter fun call => call.1.submits).length ≤ 1 ∧
      ∀ before call after, calls = before ++ call :: after → call.1.submits = true →
        before = [(.getManagedObjects, (), w)] ∧ ∃ tree state simPath,
          readTree world w = some tree ∧ readLockState tree modemPath = some state ∧
            pending state ∧ activeSimPath tree modemPath = some simPath ∧
            call.1 = code simPath := by
  subst isCalls
  refine ⟨submissions_length quiet, fun before call after split isSubmission => ?_⟩
  obtain ⟨isBefore, isCall⟩ := submission_second quiet before call after split isSubmission
  obtain ⟨tree, isTree, isState, isPath⟩ := submits.read
  exact ⟨isBefore, tree, state, simPath, isTree, isState, (reporting.settles state).mp submits.asks,
    isPath, by rw [isCall]⟩

theorem truthful_iff {pending : LockState → Prop} {unlocked rejected : α → Prop}
    {excused : Option LockState → Prop} (rejects : JsString → Bool)
    (reporting : Reporting modemPath error settled code accepted classify pending unlocked rejected
      excused) :
    Truthful world w (submitCode modemPath error secret settled code accepted classify) modemPath
        pending code unlocked rejected rejects ↔
      FailureKnown world w modemPath pending code excused rejects := by
  obtain ⟨report, classifies, reports⟩ := reporting.classifies
  have runs := submitCode_cases world w modemPath error secret settled code accepted classify
  simp only at runs
  generalize submitCode modemPath error secret settled code accepted classify = task at runs ⊢
  have unique {tree : DecodedManagedObjects} {state other : LockState}
      {simPath otherPath : JsString} (isTree : readTree world w = some tree)
      (isState : readLockState tree modemPath = some state)
      (isPath : activeSimPath tree modemPath = some simPath)
      (submits : Submits world w modemPath settled other otherPath) :
      other = state ∧ otherPath = simPath := by
    obtain ⟨tree', isTree', isState', isPath'⟩ := submits.read
    cases isTree.symm.trans isTree'
    exact ⟨Option.some.inj (isState'.symm.trans isState),
      Option.some.inj (isPath'.symm.trans isPath)⟩
  constructor
  · intro truthful tree state simPath isTree isState isPending isPath failure isFailure
    rcases runs with ⟨_, none, _⟩ | ⟨other, otherPath, submits, cases⟩
    · exact absurd ⟨⟨tree, isTree, isState, isPath⟩, (reporting.settles state).mpr isPending⟩
        (none state simPath)
    obtain ⟨rfl, rfl⟩ := unique isTree isState isPath submits
    rcases cases with ⟨reply, isReply, _⟩ | ⟨failure', isFailure', isOutcome, isCalls⟩
    · cases isFailure.symm.trans isReply
    cases isFailure.symm.trans isFailure'
    obtain ⟨classified, outcome⟩ := alone_classify world
      (world (code otherPath) (world .getManagedObjects w).2).2 (classifies other)
    rw [classified] at isCalls
    obtain ⟨result, resolved⟩ := truthful.resolves
    rcases outcome with ⟨tree', isTree', isReport⟩ | ⟨_, failure', isError⟩
    swap
    · rw [isOutcome, isError] at resolved
      cases resolved
    refine ⟨tree', isTree', or_iff_not_imp_right.mpr fun notExcused => ?_⟩
    rw [isReport] at isOutcome
    obtain ⟨call, mem, isSubmission, name, isName, isRejection⟩ :=
      truthful.rejected _ isOutcome ((reports other _).2.mpr notExcused)
    rw [isCalls] at mem
    have second := mem_of_submits (by simp [SimCall.submits]) mem isSubmission
    subst second
    cases isFailure.symm.trans isName
    exact ⟨name, rfl, isRejection⟩
  · intro known
    rcases runs with ⟨isCalls, _, result, isOutcome, isResult⟩ |
        ⟨state, simPath, submits, ⟨reply, isReply, isOutcome, isCalls⟩ |
          ⟨failure, isFailure, isOutcome, isCalls⟩⟩
    · -- nothing is submitted
      have notSubmitted : ∀ before call after,
          task.callsAlone world () w = before ++ call :: after → call.1.submits = false := by
        intro before call after split
        have mem : call ∈ task.callsAlone world () w := by
          rw [split]
          exact List.mem_append_right _ List.mem_cons_self
        rw [isCalls, List.mem_singleton] at mem
        rw [mem]
        rfl
      refine ⟨⟨result, isOutcome⟩, ?_, fun before call after split isSubmission => ?_,
        fun result' isOutcome' isUnlocked => ?_, fun result' isOutcome' isRejected => ?_⟩
      · rw [isCalls]
        exact Nat.zero_le 1
      · cases (notSubmitted before call after split).symm.trans isSubmission
      · cases isOutcome.symm.trans isOutcome'
        rcases isResult with ⟨reason, rfl⟩ | ⟨tree, state, isTree, isState, isSettled⟩
        · exact absurd isUnlocked (reporting.errorResult reason).1
        · refine .inr ⟨tree, state, isTree, isState, fun isPending => ?_⟩
          cases isSettled.symm.trans ((reporting.settles state).mpr isPending)
      · cases isOutcome.symm.trans isOutcome'
        rcases isResult with ⟨reason, rfl⟩ | ⟨tree, state, _, _, isSettled⟩
        · exact absurd isRejected (reporting.errorResult reason).2
        · exact absurd isRejected (reporting.settledResult state result isSettled)
    · -- the code is accepted
      have split : task.callsAlone world () w =
          [(.getManagedObjects, (), w), (code simPath, (), (world .getManagedObjects w).2)] ++ [] :=
        isCalls
      have asked := asked_of_calls reporting submits split nofun
      refine ⟨⟨accepted, isOutcome⟩, asked.1, asked.2, fun result isOutcome' _ => ?_,
        fun result isOutcome' isRejected => ?_⟩
      · refine .inl ⟨(code simPath, (), _), ?_, reporting.submits simPath, reply, isReply⟩
        rw [isCalls]
        exact List.mem_cons_of_mem _ List.mem_cons_self
      · cases isOutcome.symm.trans isOutcome'
        exact absurd isRejected reporting.acceptedResult
    · -- the submission fails
      obtain ⟨tree, isTree, isState, isPath⟩ := submits.read
      obtain ⟨tree', isTree', isRejection⟩ := known tree state simPath isTree isState
        ((reporting.settles state).mp submits.asks) isPath failure isFailure
      obtain ⟨classified, outcome⟩ := alone_classify world
        (world (code simPath) (world .getManagedObjects w).2).2 (classifies state)
      rcases outcome with ⟨tree'', isTree'', isReport⟩ | ⟨noTree, _⟩
      swap
      · cases isTree'.symm.trans noTree
      cases isTree'.symm.trans isTree''
      rw [classified] at isCalls
      rw [isReport] at isOutcome
      have asked := asked_of_calls reporting submits isCalls
        (by intro call mem; rw [List.mem_singleton.mp mem]; rfl)
      refine ⟨⟨_, isOutcome⟩, asked.1, asked.2, fun result isOutcome' isUnlocked => ?_,
        fun result isOutcome' isRejected => ?_⟩
      · cases isOutcome.symm.trans isOutcome'
        exact absurd isUnlocked (reports state _).1
      · cases isOutcome.symm.trans isOutcome'
        rcases isRejection with ⟨name, rfl, isRejection⟩ | excuses
        · refine ⟨(code simPath, (), _), ?_, reporting.submits simPath, name, isFailure,
            isRejection⟩
          rw [isCalls]
          exact List.mem_append_left _ (List.mem_cons_of_mem _ List.mem_cons_self)
        · exact absurd excuses ((reports state _).2.mp isRejected)

end Truthful

/-! ### PIN and PUK -/

theorem reporting_pin (modemPath pin : JsString) :
    Reporting modemPath (fun reason => ⟨.error, none, reason⟩)
      (fun state =>
        if isPukLock state.required then
          some ⟨.simPukRequired, none, js "SIM is PUK-locked; a PIN cannot clear it"⟩
        else if state.required ≠ LOCK_SIM_PIN then
          some ⟨.unlocked, none, js "no SIM PIN is pending"⟩
        else none)
      (fun simPath => .sendPin simPath pin) ⟨.unlocked, none, js "PIN accepted"⟩
      (fun _ => classifyPinFailure modemPath) LockState.AsksPin
      (fun result : SimUnlockResult => result.outcome = .unlocked)
      (fun result => result.outcome = .incorrectPin)
      (fun again => (again.any fun state => isPukLock state.required) = true) where
  settles state := by
    unfold LockState.AsksPin
    by_cases isPin : state.required = LOCK_SIM_PIN
    · have notPuk : isPukLock LOCK_SIM_PIN = false := by decide
      simp [isPin, notPuk]
    · simp only [isPin, ne_eq, not_false_eq_true, if_true, iff_false]
      split <;> exact Option.some_ne_none _
  settledResult state result isSettled := by
    split at isSettled
    · cases isSettled
      exact nofun
    · split at isSettled
      · cases isSettled
        exact nofun
      · cases isSettled
  errorResult reason := ⟨nofun, nofun⟩
  acceptedResult := nofun
  submits simPath := rfl
  classifies := by
    refine ⟨fun _ again =>
      if again.any fun state => isPukLock state.required then
        ⟨.simPukRequired, none, js "wrong PIN tripped the SIM into a PUK lock"⟩
      else ⟨.incorrectPin, again.bind fun state => state.retries.get LOCK_SIM_PIN,
        js "PIN was rejected"⟩, fun state => ?_, fun state again => ?_⟩
    · unfold classifyPinFailure
      refine congrArg (Program.bind fetchManagedObjects) (funext fun tree => ?_)
      simp only
      split <;> rfl
    · by_cases isPuk : (again.any fun state => isPukLock state.required) = true
      · simp [isPuk]
      · simp [isPuk]

theorem reporting_puk (modemPath puk newPin : JsString) :
    Reporting modemPath (fun reason => ⟨.error, none, reason⟩)
      (fun state =>
        if !isPukLock state.required then some ⟨.unlocked, none, js "no SIM PUK is pending"⟩
        else none)
      (fun simPath => .sendPuk simPath puk newPin)
      ⟨.unlocked, none, js "PUK accepted; new PIN set"⟩
      (fun state => classifyPukFailure modemPath state.required) LockState.AsksPuk
      (fun result : SimPukUnlockResult => result.outcome = .unlocked)
      (fun result => result.outcome = .incorrectPuk ∨ result.outcome = .permanentlyBlocked)
      (fun _ => False) where
  settles state := by
    unfold LockState.AsksPuk
    cases isPuk : isPukLock state.required <;> simp
  settledResult state result isSettled := by
    split at isSettled
    · cases isSettled
      rintro (isPuk | isBlocked)
      · cases isPuk
      · cases isBlocked
    · cases isSettled
  errorResult reason := ⟨by simp, by rintro (isPuk | isBlocked) <;> contradiction⟩
  acceptedResult := by rintro (isPuk | isBlocked) <;> contradiction
  submits simPath := rfl
  classifies := by
    refine ⟨fun state again =>
      let remaining := again.bind fun again => again.retries.get state.required
      if remaining = some (.integer 0) then
        ⟨.permanentlyBlocked, some (.integer 0),
          js "PUK attempts exhausted; SIM is permanently locked"⟩
      else ⟨.incorrectPuk, remaining, js "PUK was rejected"⟩,
      fun state => ?_, fun state again => ?_⟩
    · unfold classifyPukFailure
      refine congrArg (Program.bind fetchManagedObjects) (funext fun tree => ?_)
      simp only
      split <;> rfl
    · simp only [not_false_eq_true, iff_true]
      split
      · exact ⟨by simp, .inr rfl⟩
      · exact ⟨by simp, .inl rfl⟩

/-- A PIN and a PUK are submitted at most once and reported truthfully exactly if, where one is
submitted and that fails, the lock state can be read again, and the SIM has rejected the code or,
for a PIN, the SIM is locked by a PUK by then. -/
theorem unlock_iff {ω : Type} (world : (op : SimCall) → ω → Except CallFailure op.Answer × ω)
    (w : ω) (modemPath pin puk newPin : JsString) (rejects : JsString → Bool) :
    (Truthful world w (sendSimPin modemPath pin) modemPath LockState.AsksPin
        (fun simPath => .sendPin simPath pin) (fun result => result.outcome = .unlocked)
        (fun result => result.outcome = .incorrectPin) rejects ∧
      Truthful world w (sendSimPuk modemPath puk newPin) modemPath LockState.AsksPuk
        (fun simPath => .sendPuk simPath puk newPin) (fun result => result.outcome = .unlocked)
        (fun result => result.outcome = .incorrectPuk ∨ result.outcome = .permanentlyBlocked)
        rejects) ↔
      FailureKnown world w modemPath LockState.AsksPin (fun simPath => .sendPin simPath pin)
          (fun again => (again.any fun state => isPukLock state.required) = true) rejects ∧
        FailureKnown world w modemPath LockState.AsksPuk (fun simPath => .sendPuk simPath puk newPin)
          (fun _ => False) rejects :=
  and_congr (truthful_iff rejects (reporting_pin modemPath pin))
    (truthful_iff rejects (reporting_puk modemPath puk newPin))

/-- A modem that asks for a PIN. -/
def lockedTree : DecodedManagedObjects :=
  [(js "/modem", [(modemIface, [(js "UnlockRequired", ⟨js "u", .number LOCK_SIM_PIN⟩),
    (js "Sim", ⟨js "o", .string (js "/sim")⟩)])])]

/-- The tree is read, and every submission times out. -/
def lostReplies : (op : SimCall) → Unit → Except CallFailure op.Answer × Unit
  | .getManagedObjects, _ => (.ok (some lockedTree), ())
  | .sendPin _ _, _ => (.error .timeout, ())
  | .sendPuk _ _ _, _ => (.error .timeout, ())

/-- A PIN whose reply is lost is reported as rejected, whatever errors mean a rejection. -/
theorem lost_pin_rejected :
    ¬ ∃ rejects : JsString → Bool,
      Truthful lostReplies () (sendSimPin (js "/modem") (js "1234")) (js "/modem") LockState.AsksPin
        (fun simPath => .sendPin simPath (js "1234")) (fun result => result.outcome = .unlocked)
        (fun result => result.outcome = .incorrectPin) rejects := by
  rintro ⟨rejects, truthful⟩
  obtain ⟨⟨op, _, _⟩, _, isSubmission, name, isName, _⟩ := truthful.rejected _ rfl rfl
  cases op with
  | getManagedObjects => cases isSubmission
  | sendPin path pin | sendPuk path puk newPin => cases isName

end ModemStack.Backend
