import ModemStack.Operations.Gate
import ModemStack.Operations.HookTrace

/-!
What `applied` and a rollback say.

`applied` is returned for what the device has confirmed, and a rollback undoes what has definitely
failed: never a write whose outcome is unknown (`invokeNow_honest`). A read that times out or is
dropped has definitely failed, so that a read that requires a rollback is rolled back then
(`rollback_after_timeout`).
-/

namespace ModemStack.Operations

open ModemStack.Async ModemStack.Domain ModemStack.Text Program

variable {I O : Type}

/-! ### The last answers -/

/-- What the last attempt has answered, and the engine found then. -/
def lastExecute : History I O → Option (Except Rejection (OperationCompletion O) × EngineState)
  | [] => none
  | ⟨.execute _, answer, _, resumed⟩ :: _ => some (answer, resumed)
  | _ :: history => lastExecute history

def lastReadback : History I O → Option (Except Rejection (OperationCompletion O) × EngineState)
  | [] => none
  | ⟨.readback _, answer, _, resumed⟩ :: _ => some (answer, resumed)
  | _ :: history => lastReadback history

def Hook.isReadback : Hook I O → Bool
  | .readback _ => true
  | _ => false

def Hook.isRollback : Hook I O → Bool
  | .rollback _ => true
  | _ => false

theorem lastExecute_cons {event : EngineEvent I O} {history : History I O}
    (other : event.op.isExecute = false) : lastExecute (event :: history) = lastExecute history := by
  obtain ⟨op, answer, called, resumed⟩ := event
  cases op with
  | execute => cases other
  | _ => rfl

theorem lastReadback_cons {event : EngineEvent I O} {history : History I O}
    (other : event.op.isReadback = false) :
    lastReadback (event :: history) = lastReadback history := by
  obtain ⟨op, answer, called, resumed⟩ := event
  cases op with
  | readback => cases other
  | _ => rfl

section Honesty

variable (execution : OperationExecution I O) (begun : EngineState) (history : History I O)

/-! ### What the answers mean -/

/-- The modem is still in the generation in which the invocation began. -/
def Current (resumed : EngineState) : Prop :=
  resumed.currentGeneration execution.physicalModemId = startGeneration execution begun

/-- The last attempt has been applied, to the device it was meant for. -/
def ExecuteApplied (value : O) : Prop :=
  ∃ resumed, lastExecute history = some (.ok (.applied value), resumed) ∧
    Current execution begun resumed

/-- The last attempt has definitely failed: it says so, or it is a read that got no reply. -/
def ExecuteFailed : Prop :=
  ∃ completion resumed, lastExecute history = some (.ok completion, resumed) ∧
    Current execution begun resumed ∧ ((∃ reason, completion = .failed reason) ∨
      execution.descriptor.kind = .read ∧ (completion = .timedOut ∨ completion = .dropped))

/-- The device may or may not have done what the last attempt asked for. -/
def ExecuteUnknown : Prop :=
  ∃ completion resumed, lastExecute history = some (.ok completion, resumed) ∧
    (¬ Current execution begun resumed ∨
      execution.descriptor.kind = .write ∧ (completion = .timedOut ∨ completion = .dropped))

/-- The readback has found what was asked for. -/
def ReadbackMatched (matches' : I → O → Bool) : Prop :=
  ∃ observed resumed, lastReadback history = some (.ok (.applied observed), resumed) ∧
    Current execution begun resumed ∧ matches' execution.input observed = true

/-- The readback was refused, failed, timed out, was dropped or has found something else. -/
def ReadbackFailed (matches' : I → O → Bool) : Prop :=
  ∃ completion resumed, lastReadback history = some (.ok completion, resumed) ∧
    Current execution begun resumed ∧
      ∀ observed, completion = .applied observed → matches' execution.input observed = false

def ReadbackStale : Prop :=
  ∃ completion resumed, lastReadback history = some (.ok completion, resumed) ∧
    ¬ Current execution begun resumed

/-- What `applied` claims. -/
def Verified (value : O) : Prop :=
  ExecuteApplied execution begun history value ∧
    ∀ reason matches', execution.descriptor.readback = .required reason matches' →
      ReadbackMatched execution begun history matches'

def RollbackDue : Prop :=
  (ExecuteFailed execution begun history ∧ execution.descriptor.rollback.isRequired = true) ∨
    ∃ reason matches' value, execution.descriptor.readback = .required reason matches' ∧
      ExecuteApplied execution begun history value ∧
        ReadbackFailed execution begun history matches'

/-- What holds of a call of `rollback`. -/
structure LawfulRollback : Prop where
  present : execution.hasRollback = true
  due : RollbackDue execution begun history
  known : ¬ ExecuteUnknown execution begun history
  current : ¬ ReadbackStale execution begun history
  first : callsOf Hook.isRollback history = 0

/-- What holds of a result that is to be returned. -/
structure Honest (outcome : Except Rejection (OperationResult O)) : Prop where
  verified : ∀ value generation, outcome = .ok (.applied value generation) →
    generation = startGeneration execution begun ∧ Verified execution begun history value
  rolledBack : execution.hasRollback = true → RollbackDue execution begun history →
    callsOf Hook.isRollback history = 1
  notRolledBack : ¬ (execution.hasRollback = true ∧ RollbackDue execution begun history) →
    callsOf Hook.isRollback history = 0

/-! ### What a stage knows -/

/-- No readback and no rollback yet. -/
structure Unverified : Prop where
  readback : lastReadback history = none
  rollback : callsOf Hook.isRollback history = 0

/-- What the answers so far have come to when the invocation is in a stage. -/
def Told : Stage O → Prop
  | .begun | .checked | .admitted _ | .journaled _ =>
    lastExecute history = none ∧ Unverified history
  | .retrying _ => Unverified history
  | .executed _ outcome => Unverified history ∧ ∃ answer resumed,
      lastExecute history = some (answer, resumed) ∧ outcome = answer.map
        (classified execution (startGeneration execution begun) execution.descriptor.kind resumed)
  | .observing _ result => Unverified history ∧
      execution.descriptor.readback.isRequired = true ∧ ∃ value,
        ExecuteApplied execution begun history value ∧
          result = .applied value (startGeneration execution begun)
  | .rollingBack _ result => RollbackDue execution begun history ∧
      ¬ ReadbackStale execution begun history ∧ callsOf Hook.isRollback history = 0 ∧
        ∃ reason generation, result = .failed reason generation
  | .hooked _ outcome | .closing _ outcome | .unlocked outcome | .ended outcome =>
    Honest execution begun history outcome
  | .settled _ result => Honest execution begun history (.ok result)

variable {execution begun history}

variable {event : EngineEvent I O} {completion : OperationCompletion O} {resumed : EngineState}

theorem callsOf_cons_of_not {kind : Hook I O → Bool} (other : kind event.op = false) :
    callsOf kind (event :: history) = callsOf kind history := by
  rw [callsOf_cons, other]
  rfl

/-- A hook that tells nothing of the device. -/
structure Silent (hook : Hook I O) : Prop where
  execute : hook.isExecute = false
  readback : hook.isReadback = false
  rollback : hook.isRollback = false

theorem Unverified.cons (unverified : Unverified history) (readback : event.op.isReadback = false)
    (rollback : event.op.isRollback = false) : Unverified (event :: history) := by
  constructor
  · rw [lastReadback_cons readback]
    exact unverified.readback
  · rw [callsOf_cons_of_not rollback]
    exact unverified.rollback

theorem Honest.cons {outcome : Except Rejection (OperationResult O)}
    (honest : Honest execution begun history outcome) (silent : Silent event.op) :
    Honest execution begun (event :: history) outcome := by
  have execute : lastExecute (event :: history) = lastExecute history :=
    lastExecute_cons silent.execute
  have readback : lastReadback (event :: history) = lastReadback history :=
    lastReadback_cons silent.readback
  have rollbacks : callsOf Hook.isRollback (event :: history) = callsOf Hook.isRollback history :=
    callsOf_cons_of_not silent.rollback
  constructor
  · intro value generation isApplied
    simpa only [Verified, ExecuteApplied, ReadbackMatched, execute, readback] using
      honest.verified value generation isApplied
  · intro present due
    rw [rollbacks]
    refine honest.rolledBack present ?_
    simpa only [RollbackDue, ExecuteFailed, ExecuteApplied, ReadbackFailed, execute, readback]
      using due
  · intro notDue
    rw [rollbacks]
    refine honest.notRolledBack ?_
    simpa only [RollbackDue, ExecuteFailed, ExecuteApplied, ReadbackFailed, execute, readback]
      using notDue

theorem Honest.reject {outcome : Except Rejection (OperationResult O)} {error : Rejection}
    (honest : Honest execution begun history outcome) :
    Honest execution begun history (.error error) where
  verified := nofun
  rolledBack := honest.rolledBack
  notRolledBack := honest.notRolledBack

/-- No rollback has been called, and none is due. -/
theorem Honest.ofNotDue {outcome : Except Rejection (OperationResult O)}
    (notDue : ¬ RollbackDue execution begun history)
    (none : callsOf Hook.isRollback history = 0)
    (verified : ∀ value generation, outcome = .ok (.applied value generation) →
      generation = startGeneration execution begun ∧ Verified execution begun history value) :
    Honest execution begun history outcome where
  verified := verified
  rolledBack := fun _ due => absurd due notDue
  notRolledBack := fun _ => none

/-- Without a completed attempt no rollback is due. -/
theorem notDue_of_uncompleted
    (uncompleted : ∀ completion resumed, lastExecute history ≠ some (.ok completion, resumed)) :
    ¬ RollbackDue execution begun history := by
  rintro (⟨⟨completion, resumed, isLast, -⟩, -⟩ |
    ⟨reason, matches', value, -, ⟨resumed, isLast, -⟩, -⟩)
  · exact uncompleted _ _ isLast
  · exact uncompleted _ _ isLast

/-- Before the readback only a failed attempt makes a rollback due. -/
theorem notDue_of_unread (unread : lastReadback history = none)
    (notFailed : ExecuteFailed execution begun history →
      execution.descriptor.rollback.isRequired = false) : ¬ RollbackDue execution begun history := by
  rintro (⟨failed, isRequired⟩ | ⟨reason, matches', value, -, -, ⟨completion, resumed, isLast, -⟩⟩)
  · rw [notFailed failed] at isRequired
    cases isRequired
  · rw [unread] at isLast
    cases isLast

variable {value : O} {kind : OperationKind}

theorem ExecuteApplied.notFailed (applied : ExecuteApplied execution begun history value) :
    ¬ ExecuteFailed execution begun history := by
  obtain ⟨resumed, isLast, -⟩ := applied
  rintro ⟨completion, resumed', isLast', -, failed⟩
  rw [isLast] at isLast'
  cases isLast'
  rcases failed with ⟨reason, isFailed⟩ | ⟨-, isTimedOut | isDropped⟩
  · cases isFailed
  · cases isTimedOut
  · cases isDropped

/-- After an applied attempt only a failed readback makes a rollback due. -/
theorem ExecuteApplied.notDue (applied : ExecuteApplied execution begun history value)
    (notFailed : ∀ reason matches', execution.descriptor.readback = .required reason matches' →
      ¬ ReadbackFailed execution begun history matches') :
    ¬ RollbackDue execution begun history := by
  rintro (⟨failed, -⟩ | ⟨reason, matches', _, isRequired, -, failed⟩)
  · exact applied.notFailed failed
  · exact notFailed reason matches' isRequired failed

/-! ### Classification -/

theorem classified_applied {generation : DeviceGeneration}
    (applied : classified execution (startGeneration execution begun) kind resumed completion =
      .applied value generation) : completion = .applied value ∧ Current execution begun resumed ∧
      generation = startGeneration execution begun := by
  unfold classified classifyOperationCompletion at applied
  split at applied
  · cases applied
  · next same =>
    rw [ne_eq, not_not] at same
    cases completion with
    | applied =>
      cases applied
      exact ⟨rfl, same.symm, rfl⟩
    | refused | failed => cases applied
    | timedOut | dropped =>
      dsimp only at applied
      split at applied <;> cases applied

theorem classified_unknown :
    (∃ reason generation, classified execution (startGeneration execution begun) kind resumed
        completion = .unknownOutcome reason generation) ↔
      (¬ Current execution begun resumed ∨
        kind = .write ∧ (completion = .timedOut ∨ completion = .dropped)) := by
  unfold classified classifyOperationCompletion Current
  by_cases same : resumed.currentGeneration execution.physicalModemId =
      startGeneration execution begun
  · rw [if_neg (not_not.mpr same.symm)]
    cases completion <;> cases kind <;> simp [same]
  · rw [if_pos (Ne.symm same)]
    simp [same]

theorem classified_failed :
    (∃ reason generation, classified execution (startGeneration execution begun) kind resumed
        completion = .failed reason generation) ↔
      Current execution begun resumed ∧ ((∃ reason, completion = .failed reason) ∨
        kind = .read ∧ (completion = .timedOut ∨ completion = .dropped)) := by
  unfold classified classifyOperationCompletion Current
  by_cases same : resumed.currentGeneration execution.physicalModemId =
      startGeneration execution begun
  · rw [if_neg (not_not.mpr same.symm)]
    cases completion <;> cases kind <;> simp [same]
  · rw [if_pos (Ne.symm same)]
    simp [same]

theorem executeFailed_iff (isLast : lastExecute history = some (.ok completion, resumed)) :
    ExecuteFailed execution begun history ↔ ∃ reason generation,
      classified execution (startGeneration execution begun) execution.descriptor.kind resumed
        completion = .failed reason generation := by
  rw [classified_failed]
  constructor
  · rintro ⟨completion', resumed', isLast', failed⟩
    rw [isLast] at isLast'
    cases isLast'
    exact failed
  · intro failed
    exact ⟨completion, resumed, isLast, failed⟩

/-- A readback that was refused or has failed. -/
theorem readbackFailed_of_classified
    (isLast : lastReadback history = some (.ok completion, resumed))
    (notApplied : ∀ value generation, classified execution (startGeneration execution begun) .read
      resumed completion ≠ .applied value generation)
    (known : ∀ reason generation, classified execution (startGeneration execution begun) .read
      resumed completion ≠ .unknownOutcome reason generation) (matches' : I → O → Bool) :
    ReadbackFailed execution begun history matches' := by
  have current : Current execution begun resumed := by
    by_contra stale
    obtain ⟨reason, generation, unknown⟩ := classified_unknown.mpr
      (.inl stale : _ ∨ (.read = OperationKind.write ∧
        (completion = .timedOut ∨ completion = .dropped)))
    exact known reason generation unknown
  refine ⟨completion, resumed, isLast, current, ?_⟩
  rintro observed rfl
  refine absurd ?_ (notApplied observed (startGeneration execution begun))
  rw [classified, classifyOperationCompletion, if_neg (not_not.mpr current.symm)]

/-! ### The steps -/

theorem told_afterExecute {context : OperationAttemptContext} {lease retry : Bool}
    {called resumed : EngineState} (unverified : Unverified history) :
    Told execution begun (⟨.execute context, .ok completion, called, resumed⟩ :: history)
      (Stage.afterExecute execution lease retry (classified execution
        (startGeneration execution begun) execution.descriptor.kind resumed completion)) := by
  unfold Stage.afterExecute
  split
  · exact unverified.cons rfl rfl
  · exact ⟨unverified.cons rfl rfl, _, _, rfl, rfl⟩

theorem told_afterAttempts {lease : Bool} {result : OperationResult O}
    (unverified : Unverified history)
    (isLast : lastExecute history = some (.ok completion, resumed))
    (isResult : result = classified execution (startGeneration execution begun)
      execution.descriptor.kind resumed completion) :
    Told execution begun history (Stage.afterAttempts execution lease result) := by
  have failed : ExecuteFailed execution begun history ↔
      ∃ reason generation, result = .failed reason generation := by
    rw [isResult]
    exact executeFailed_iff isLast
  cases result with
  | applied value generation =>
    obtain ⟨rfl, current, rfl⟩ := classified_applied isResult.symm
    have applied : ExecuteApplied execution begun history value := ⟨resumed, isLast, current⟩
    rw [Stage.afterAttempts]
    split
    · next isRequired => exact ⟨unverified, isRequired, value, applied, rfl⟩
    · next notRequired =>
      refine .ofNotDue (notDue_of_unread unverified.readback fun failed => ?_)
        unverified.rollback ?_
      · exact absurd failed applied.notFailed
      · rintro value generation ⟨⟩
        refine ⟨rfl, applied, fun reason matches' isRequired => ?_⟩
        rw [isRequired] at notRequired
        exact absurd rfl notRequired
  | failed reason generation =>
    have failed : ExecuteFailed execution begun history := failed.mpr ⟨reason, generation, rfl⟩
    rw [Stage.afterAttempts]
    split
    · next isRequired =>
      refine ⟨.inl ⟨failed, isRequired⟩, ?_, unverified.rollback, reason, generation, rfl⟩
      rintro ⟨completion, resumed, isRead, -⟩
      rw [unverified.readback] at isRead
      cases isRead
    · next notRequired =>
      exact .ofNotDue (notDue_of_unread unverified.readback fun _ =>
        eq_false_of_ne_true notRequired) unverified.rollback (by simp)
  | refused | unknownOutcome =>
    refine .ofNotDue (notDue_of_unread unverified.readback fun isFailed => ?_)
      unverified.rollback (by simp)
    obtain ⟨_, _, ⟨⟩⟩ := failed.mp isFailed

theorem told_afterReadback {lease : Bool} {readback : OperationResult O}
    (isRequired : execution.descriptor.readback.isRequired = true)
    (applied : ExecuteApplied execution begun history value)
    (none : callsOf Hook.isRollback history = 0)
    (isLast : lastReadback history = some (.ok completion, resumed))
    (isReadback : readback = classified execution (startGeneration execution begun) .read resumed
      completion) :
    Told execution begun history (Stage.afterReadback execution (startGeneration execution begun)
      lease (.applied value (startGeneration execution begun)) readback) := by
  obtain ⟨reason, matches', required⟩ : ∃ reason matches',
      execution.descriptor.readback = .required reason matches' := by
    cases readback : execution.descriptor.readback with
    | notRequired => simp [readback, OperationReadback.isRequired] at isRequired
    | required reason matches' => exact ⟨reason, matches', rfl⟩
  have fresh : ∀ current : Current execution begun resumed, ¬ ReadbackStale execution begun history := by
    rintro current ⟨completion', resumed', isLast', stale⟩
    rw [isLast] at isLast'
    cases isLast'
    exact stale current
  have due : ∀ failed : ReadbackFailed execution begun history matches',
      RollbackDue execution begun history :=
    fun failed => .inr ⟨reason, matches', value, required, applied, failed⟩
  cases readback with
  | applied observed generation =>
    obtain ⟨rfl, current, rfl⟩ := classified_applied isReadback.symm
    simp only [Stage.afterReadback, required]
    split
    · next matched =>
      refine .ofNotDue (applied.notDue ?_) none ?_
      · rintro _ _ isRequired ⟨completion, resumed', isLast', -, mismatch⟩
        rw [required] at isRequired
        cases isRequired
        rw [isLast] at isLast'
        cases isLast'
        rw [mismatch observed rfl] at matched
        cases matched
      · rintro _ _ ⟨⟩
        refine ⟨rfl, applied, ?_⟩
        rintro _ _ isRequired
        rw [required] at isRequired
        cases isRequired
        exact ⟨observed, resumed, isLast, current, matched⟩
    · next mismatch =>
      refine ⟨due ⟨_, resumed, isLast, current, ?_⟩, fresh current, none, _, _, rfl⟩
      rintro _ ⟨⟩
      exact eq_false_of_ne_true mismatch
  | unknownOutcome unknown generation =>
    refine .ofNotDue (applied.notDue ?_) none (by simp)
    rintro _ _ - ⟨completion', resumed', isLast', current, -⟩
    rw [isLast] at isLast'
    cases isLast'
    rcases classified_unknown.mp ⟨unknown, generation, isReadback.symm⟩ with stale | ⟨⟨⟩, -⟩
    exact stale current
  | refused | failed =>
    have failed : ReadbackFailed execution begun history matches' :=
      readbackFailed_of_classified isLast (by rw [← isReadback]; exact (by simp))
        (by rw [← isReadback]; exact (by simp)) matches'
    obtain ⟨completion', resumed', isLast', current, -⟩ := id failed
    rw [isLast] at isLast'
    cases isLast'
    exact ⟨due failed, fresh current, none, _, _, rfl⟩

/-- What a rollback leaves behind. -/
theorem honest_of_rolledBack {outcome : Except Rejection (OperationResult O)}
    (present : execution.hasRollback = true) (isRollback : event.op.isRollback = true)
    (due : RollbackDue execution begun history) (none : callsOf Hook.isRollback history = 0)
    (notApplied : ∀ value generation, outcome ≠ .ok (.applied value generation)) :
    Honest execution begun (event :: history) outcome := by
  obtain ⟨op, answer, called, resumed⟩ := event
  cases op with
  | rollback =>
    constructor
    · intro value generation isApplied
      exact absurd isApplied (notApplied value generation)
    · intro _ _
      rw [callsOf_cons, none]
      rfl
    · intro notDue
      exact absurd ⟨present, due⟩ notDue
  | _ => cases isRollback

theorem Move.told {stage stage' : Stage O}
    (move : Move execution (startGeneration execution begun) stage event stage')
    (told : Told execution begun history stage) :
    Told execution begun (event :: history) stage' := by
  cases move with
  | satisfied | notRequired | granted | started | startedNotJournaled =>
    exact ⟨told.1, told.2.cons rfl rfl⟩
  | unsatisfied | checkRejected | portMissing | notAdmitted | acquireRejected | startedRejected =>
    refine .ofNotDue (notDue_of_uncompleted fun completion resumed isLast => ?_)
      (told.2.cons rfl rfl).rollback nofun
    have unexecuted := told.1.symm.trans isLast
    cases unexecuted
  | attempted => exact told_afterExecute told.2
  | attemptRejected => exact ⟨told.2.cons rfl rfl, _, _, rfl, rfl⟩
  | retried | retryRejected => exact ⟨told.cons rfl rfl, _, _, rfl, rfl⟩
  | executed =>
    obtain ⟨unverified, answer, resumed, isLast, isResult⟩ := told
    cases answer with
    | error => cases isResult
    | ok =>
      exact told_afterAttempts (unverified.cons rfl rfl) isLast (Except.ok.inj isResult)
  | executeFailed =>
    obtain ⟨unverified, answer, resumed, isLast, isResult⟩ := told
    cases answer with
    | ok => cases isResult
    | error =>
      refine .ofNotDue (notDue_of_uncompleted fun completion resumed isLast' => ?_)
        (unverified.cons rfl rfl).rollback nofun
      have rejected := isLast.symm.trans isLast'
      cases rejected
  | observed =>
    obtain ⟨unverified, isRequired, value, applied, rfl⟩ := told
    refine told_afterReadback isRequired applied ?_ rfl rfl
    rw [callsOf_cons_of_not rfl]
    exact unverified.rollback
  | readbackRejected =>
    obtain ⟨unverified, isRequired, value, applied, rfl⟩ := told
    refine .ofNotDue (ExecuteApplied.notDue applied ?_) ?_ nofun
    · rintro reason matches' - ⟨completion, resumed, isLast, -⟩
      cases isLast
    · rw [callsOf_cons_of_not rfl]
      exact unverified.rollback
  | rolledBack present | rollbackRejected present =>
    obtain ⟨due, -, none, reason, generation, rfl⟩ := told
    exact honest_of_rolledBack present rfl due none nofun
  | rollbackMissing missing =>
    obtain ⟨due, -, none, reason, generation, rfl⟩ := told
    refine ⟨nofun, ?_, fun _ => none⟩
    intro present
    rw [missing] at present
    cases present
  | hooked | hooksFailed | completed | completedNotJournaled | released | noLease | unlocked =>
    exact Honest.cons told ⟨rfl, rfl, rfl⟩
  | completedRejected | releaseRejected => exact (Honest.cons told ⟨rfl, rfl, rfl⟩).reject

variable [OperationInput I]

theorem told_firstStage : Told execution begun [] (firstStage execution begun) := by
  have nothing : ¬ RollbackDue execution begun ([] : History I O) :=
    notDue_of_uncompleted nofun
  unfold firstStage
  dsimp only
  split
  · exact .ofNotDue nothing rfl nofun
  · split
    · exact .ofNotDue nothing rfl nofun
    · exact ⟨rfl, rfl, rfl⟩

theorem Followed.told (followed : Followed execution begun history) :
    Told execution begun history (stageOf execution begun history) := by
  induction history with
  | nil => exact told_firstStage
  | cons last rest ih => exact followed.move.told (ih followed.2)

/-! ### Rollbacks -/

omit [OperationInput I] in
/-- What makes a rollback due leaves no doubt about the attempt. -/
theorem RollbackDue.known (due : RollbackDue execution begun history) :
    ¬ ExecuteUnknown execution begun history := by
  rintro ⟨completion, resumed, isLast, unknown⟩
  rcases due with ⟨⟨completion', resumed', isLast', current, failed⟩, -⟩ |
    ⟨reason, matches', value, -, ⟨resumed', isLast', current⟩, -⟩
  · rw [isLast] at isLast'
    cases isLast'
    rcases unknown with stale | ⟨isWrite, lost⟩
    · exact stale current
    · rcases failed with ⟨reason, rfl⟩ | ⟨isRead, -⟩
      · rcases lost with isTimedOut | isDropped
        · cases isTimedOut
        · cases isDropped
      · rw [isWrite] at isRead
        cases isRead
  · rw [isLast] at isLast'
    cases isLast'
    rcases unknown with stale | ⟨-, isTimedOut | isDropped⟩
    · exact stale current
    · cases isTimedOut
    · cases isDropped

theorem Follows.lawfulRollback {hook : Hook I O} {s : EngineState}
    (follows : Follows execution begun history hook s)
    (followed : Followed execution begun history) (isRollback : hook.isRollback = true) :
    LawfulRollback execution begun history := by
  have told := Followed.told followed
  have move : Move execution (startGeneration execution begun) (stageOf execution begun history)
      ⟨hook, .error ⟨[]⟩, s, s⟩ _ := Stage.move follows
  generalize stageOf execution begun history = stage at told move
  cases move with
  | rollbackRejected present =>
    obtain ⟨due, fresh, none, -⟩ := told
    exact ⟨present, due, due.known, fresh, none⟩
  | _ => cases isRollback

/-- In every invocation, whatever its hooks answer: a rollback is called only when it is due, and
once; when it ends, every rollback that was due has been called, and what it returns as applied has
been verified. -/
theorem invokeNow_honest (execution : OperationExecution I O) (begun : EngineState) :
    (invokeNow execution).Always
      (fun history hook _ => hook.isRollback = true → LawfulRollback execution begun history)
      (fun history outcome _ => Honest execution begun history outcome) begun [] := by
  refine ((invokeNow_follows execution begun).withCalled trivial).mono ?_ ?_
  · rintro history hook s ⟨followed, follows⟩
    exact follows.lawfulRollback followed
  · rintro history outcome s ⟨followed, here⟩
    have told := Followed.told followed
    rw [show stageOf execution begun history = .ended outcome from here] at told
    exact told

end Honesty

/-! ### A read without a reply -/

/-- A read that requires a rollback. -/
def restoringRead : OperationExecution Unit Unit :=
  let plain := plainExecution .read
  let descriptor := { plain.descriptor with rollback := .required (js "restore mode") }
  { plain with descriptor := descriptor, hasRollback := true }

/-- Its attempt times out, and it is rolled back. -/
theorem rollback_after_timeout :
    ∃ (history : History Unit Unit) (task : Task Unit Unit (OperationResult Unit))
      (s resumed : EngineState) (context : OperationAttemptContext),
      Reaches (invokeNow restoringRead) ⟨fun _ => 0, ∅⟩ history task s ∧
        lastExecute history = some (.ok .timedOut, resumed) ∧
        task.pending = some (.rollback context) := by
  let s : EngineState := ⟨fun _ => 0, ∅⟩
  have begun : Reaches (invokeNow restoringRead) s [] _ _ := .start
  have admitted := (begun.resume (.ok .satisfied) s).resume (.ok ()) s
  have executing := admitted.resume (.ok ()) s
  have executed := executing.resume (.ok .timedOut) s
  have settled := executed.resume (.ok ()) s
  exact ⟨_, _, _, s, _, settled, rfl, rfl⟩

end ModemStack.Operations
