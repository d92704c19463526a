import Mathlib.Algebra.Order.BigOperators.Group.Finset
import ModemStack.Ussd.MmUssdLaws

/-!
How a session ends, and that every verb does.

A session whose entry is dropped was released by the network, as the state read after a reply is
decoded, or its last call is a `Cancel`; a failed `Initiate` or `Respond` drops it too. What the
tasks of the actor await comes, sooner or later (`Fair`): then every verb resolves, since each
answer brings its task nearer to its end (`rank`).
-/

namespace ModemStack.Ussd

open ModemStack.Async ModemStack.Backend ModemStack.Text

namespace MmUssd

variable {ε : Type} {classify : ε → UssdRegistrationFacts → UssdRefusalReason} {u u' : MmUssd ε}
  {id : Nat} {task : Task ε}

/-! ### The property -/

/-- The event is the state read after a reply, and reads neither an open session nor a prompt. -/
def ReadsReleased (u : MmUssd ε) (event : Event ε) (stableKey : JsString) : Prop :=
  ∃ id task ussdReply reply, event = .reply id reply ∧ u.tasks id = some task ∧
    task.stableKey = stableKey ∧ task.awaits = .state ussdReply ∧
    decodeRepliedState (readUssdState reply) = .released

/-- The event ends a failed `Initiate` or `Respond`. -/
def Fails (u : MmUssd ε) (event : Event ε) (stableKey : JsString) : Prop :=
  ∃ id task facts error, event = .registered id facts ∧ u.tasks id = some task ∧
    task.stableKey = stableKey ∧ task.awaits = .registration error ∧ task.job ≠ .verb .cancel

/-- Call `id` of the actor has its turn, or is under way. -/
def Due (u : MmUssd ε) (id : Nat) : Prop :=
  ∃ call, u.actor.calls id = some call ∧
    (u.actor.tails.Ready id ∨ call.stage.phase = .running)

/-- The event is what call `id` of the actor, a task of the adapter or not, awaits. -/
def Answers (u : MmUssd ε) (id : Nat) : Event ε → Prop
  | .turn i => i = id ∧ u.actor.tails.Ready id ∧ ∃ task, u.tasks id = some task ∧
      task.awaits = .turn
  | .reply i _ => i = id ∧ ∃ task, u.tasks id = some task ∧
      (task.awaits = .reply ∨ ∃ ussdReply, task.awaits = .state ussdReply)
  | .registered i _ => i = id ∧ ∃ task error, u.tasks id = some task ∧
      task.awaits = .registration error
  | .actor (.resume i answer) => i = id ∧ u.tasks id = none ∧
      (answer = .priorSettled → u.actor.tails.Ready id) ∧
      ∃ call, u.actor.calls id = some call ∧ (call.resume answer).isSome
  | _ => False

/-- Whatever is due on the actor is answered, sooner or later. -/
def Fair (classify : ε → UssdRegistrationFacts → UssdRefusalReason) (u : MmUssd ε)
    (events : Nat → Event ε) : Prop :=
  ∀ n id, Due (stateAt (step classify) u events n) id →
    ∃ m, n ≤ m ∧ Answers (stateAt (step classify) u events m) id (events m)

def Resolved (u : MmUssd ε) (id : Nat) : Prop :=
  ∃ task, u.tasks id = some task ∧ task.awaits = .nothing

structure EndsSessions (classify : ε → UssdRegistrationFacts → UssdRefusalReason)
    (u : MmUssd ε) : Prop where
  ended : ∀ event stableKey, u.sessions stableKey ≠ none →
    (u.step classify event).sessions stableKey = none → ReadsReleased u event stableKey ∨
      (u.step classify event).lastCall stableKey = some .cancel ∨ Fails u event stableKey
  settles : ∀ id task verb, u.tasks id = some task → task.job = .verb verb →
    ∀ events, Fair classify u events → ∃ n, Resolved (stateAt (step classify) u events n) id
  rests : ∀ stableKey, (∀ id task verb, u.tasks id = some task → task.stableKey = stableKey →
    task.job = .verb verb → task.awaits = .nothing) →
    ∀ snapshot, u.sessions stableKey = some snapshot → snapshot.Resting

/-! ### How a session ends -/

theorem Sound.ended (sound : Sound u) (event : Event ε) {stableKey : JsString}
    (held : u.sessions stableKey ≠ none) (stepped : Stepped u event u')
    (absent : u'.sessions stableKey = none) : ReadsReleased u event stableKey ∨
      u'.lastCall stableKey = some .cancel ∨ Fails u event stableKey := by
  cases stepped with
  | same | submits | fires | works | stops => exact absurd absent held
  | moves event id task actor after isTask effect wentOn =>
    by_cases same : stableKey = task.stableKey
    · subst same
      rw [lastCall_move, if_pos rfl]
      simp only [MmUssd.move, Function.update_self] at absent
      cases effect with
      | refused => exact absurd absent held
      | dispatched => cases absent
      | expired => exact .inr (.inl rfl)
      | answered | ended => exact absurd absent held
      | cancelled body isCancel replied =>
        have underway : task.Underway := by simp [Task.Underway, replied, Awaits.phase]
        have called := sound.called id task isTask underway
        rw [isCancel] at called
        exact .inr (.inl called)
      | released reply verb isVerb ussdReply read isReleased =>
        exact .inl ⟨id, task, ussdReply, reply, rfl, isTask, rfl, read, isReleased⟩
      | heldOpen => cases absent
      | failed facts verb isVerb error read =>
        by_cases cancels : task.job = .verb .cancel
        · have underway : task.Underway := by simp [Task.Underway, read, Awaits.phase]
          have called := sound.called id task isTask underway
          rw [cancels] at called
          exact .inr (.inl called)
        · exact .inr (.inr ⟨id, task, facts, error, rfl, isTask, rfl, read, cancels⟩)
    · simp only [MmUssd.move, Function.update_of_ne same] at absent
      exact absurd absent held

/-! ### Every verb settles -/

def Awaits.rank : Awaits ε → Nat
  | .turn => 3
  | .reply => 2
  | .nothing => 0
  | _ => 1

/-- How many answers call `id` of the actor still takes, at most. -/
def rank (u : MmUssd ε) (id : Nat) : Nat :=
  match u.tasks id with
  | some task => task.awaits.rank
  | none => u.actor.rank id

variable {event : Event ε}

theorem Effect.rank_lt {after : After ε} (effect : Effect u id task event after) :
    after.awaits.rank < task.awaits.rank := by
  cases effect with
  | refused turn ready => simp [stay, turn, Awaits.rank]
  | dispatched verb isVerb turn ready accepted
  | expired armed isExpiry turn ready held => simp [turn, Awaits.rank]
  | answered reply verb isVerb replied awaits next =>
    cases awaits <;> simp [stay, replied, Awaits.rank] at next ⊢
  | ended reply armed isExpiry replied => simp [stay, replied, Awaits.rank]
  | cancelled body isCancel replied => simp [replied, Awaits.rank]
  | released reply verb isVerb ussdReply read isReleased
  | heldOpen reply verb isVerb ussdReply read snapshot resting
  | failed facts verb isVerb error read => simp [read, Awaits.rank]

theorem rank_move {actor : ModemActor ε (Option UssdVerbResult)} {after : After ε}
    (wentOn : WentOn u.actor actor id { task with awaits := after.awaits }) (i : Nat) :
    (u.move id task actor after).rank i = if i = id then after.awaits.rank else u.rank i := by
  by_cases same : i = id
  · simp [rank, move, same]
  · simp [rank, move, same, ModemActor.rank, wentOn.others i same]

theorem Stepped.submitted_le (stepped : Stepped u event u') :
    u.actor.submitted ≤ u'.actor.submitted := by
  cases stepped with
  | same => exact Nat.le_refl _
  | moves event id task actor after isTask effect wentOn => exact Nat.le_of_eq wentOn.submitted.symm
  | submits | fires => exact Nat.le_succ _
  | works event foreign => exact ModemActor.submitted_step event
  | stops => exact Nat.le_refl _

theorem rank_submit {stableKey modem : JsString} {job : Job} (lt : id < u.actor.submitted) :
    (u.submit stableKey modem job).rank id = u.rank id := by
  simp [rank, submit, ModemActor.rank, ModemActor.enqueue, Function.update_of_ne lt.ne]

/-- No event takes a call further from its end. -/
theorem Stepped.rank_le (stepped : Stepped u event u') (lt : id < u.actor.submitted) :
    u'.rank id ≤ u.rank id := by
  cases stepped with
  | same => exact Nat.le_refl _
  | moves event i task actor after isTask effect wentOn =>
    rw [rank_move wentOn]
    split
    · next eq =>
      subst eq
      simpa only [rank, isTask] using Nat.le_of_lt effect.rank_lt
    · exact Nat.le_refl _
  | submits | fires => exact Nat.le_of_eq (rank_submit lt)
  | works event foreign =>
    unfold rank
    cases isTask : u.tasks id with
    | some => exact Nat.le_refl _
    | none => exact ModemActor.rank_step event lt
  | stops => exact Nat.le_refl _

/-- An answer takes its call nearer to its end. -/
theorem rank_answered (sound : Sound u) (answers : Answers u id event) :
    (u.step classify event).rank id < u.rank id := by
  have moved {task : Task ε} {u' : MmUssd ε} (isTask : u.tasks id = some task)
      (moves : Moves u id task event u') : u'.rank id < u.rank id := by
    obtain ⟨actor, after, effect, wentOn, rfl⟩ := moves
    rw [rank_move wentOn, if_pos rfl]
    simpa only [rank, isTask] using effect.rank_lt
  cases event with
  | verb | fire => exact answers.elim
  | turn =>
    obtain ⟨rfl, ready, task, isTask, turn⟩ := answers
    exact moved isTask (turn_moves sound isTask turn ready)
  | reply i reply =>
    obtain ⟨rfl, task, isTask, replied | ⟨ussdReply, read⟩⟩ := answers
    · exact moved isTask (reply_moves sound isTask replied reply)
    · exact moved isTask (state_moves sound isTask read reply)
  | registered i facts =>
    obtain ⟨rfl, task, error, isTask, read⟩ := answers
    exact moved isTask (registered_moves sound isTask read facts)
  | stop => exact answers.elim
  | actor event =>
    cases event with
    | run | runQuiesced | cleanUp => exact answers.elim
    | resume =>
      obtain ⟨rfl, foreign, due, call, isCall, resumes⟩ := answers
      have lt := ModemActor.rank_resume isCall resumes due
      simpa [step, MmUssd.onActor, foreign, ModemActor.step, rank] using lt

/-- A task keeps its key and its job. -/
theorem Stepped.tasks (sound : Sound u) (stepped : Stepped u event u')
    (isTask : u.tasks id = some task) : ∃ awaits, u'.tasks id = some { task with awaits } := by
  cases stepped with
  | same => exact ⟨task.awaits, isTask⟩
  | moves event i other actor after isOther effect wentOn =>
    by_cases same : id = i
    · subst same
      cases isOther.symm.trans isTask
      exact ⟨after.awaits, by simp [move]⟩
    · exact ⟨task.awaits, by simp [move, same, isTask]⟩
  | submits key modem verb => exact ⟨task.awaits, sound.tasks_submit isTask key modem _⟩
  | fires key timer isTimer pending =>
    exact ⟨task.awaits, sound.tasks_submit isTask key timer.modem _⟩
  | works | stops => exact ⟨task.awaits, isTask⟩

/-- A verb that has not resolved waits, behind the calls before it, for an answer that is due. -/
theorem Sound.due (sound : Sound u) (isTask : u.tasks id = some task)
    (pending : task.awaits ≠ .nothing) : ∃ i, i ≤ id ∧ Due u i := by
  obtain ⟨call, isCall, agrees⟩ := sound.agrees id task isTask
  have unsettled : ∀ result, call.stage ≠ .settled result := by
    intro result settled
    have phase := agrees.phase
    rw [settled] at phase
    generalize task.awaits = awaits at pending phase
    cases awaits with
    | nothing => exact pending rfl
    | turn | reply | state | registration => cases phase
  obtain ⟨i, other, le, isOther, -, due⟩ := sound.linked.goesOn id isCall unsettled
  exact ⟨i, le, other, isOther, due⟩

theorem Sound.settles (sound : Sound u) (isTask : u.tasks id = some task)
    {events : Nat → Event ε} (fair : Fair classify u events) :
    ∃ n, Resolved (stateAt (step classify) u events n) id := by
  let Kept (v : MmUssd ε) : Prop :=
    Sound v ∧ id < v.actor.submitted ∧ ∃ awaits, v.tasks id = some { task with awaits }
  have kept (n : Nat) : Kept (stateAt (step classify) u events n) := by
    refine stateAt_keeps (fun v event => ?_)
      ⟨sound, sound.lt_submitted isTask, task.awaits, isTask⟩ n
    rintro ⟨soundV, lt, awaits, isTask⟩
    have stepped : Stepped v event (v.step classify event) := step_cases soundV event
    obtain ⟨awaits', isTask'⟩ := stepped.tasks soundV isTask
    exact ⟨soundV.stepped stepped, Nat.lt_of_lt_of_le lt stepped.submitted_le, awaits', isTask'⟩
  -- The answers that the verb and the calls before it still take.
  refine exists_of_lowered (fun v : MmUssd ε => v.Resolved id)
    (fun v => ∑ i ∈ Finset.range (id + 1), v.rank i) ?_ ?_
  · intro n
    obtain ⟨soundV, lt, -⟩ := kept n
    refine Finset.sum_le_sum fun i mem => ?_
    have le := Finset.mem_range_succ_iff.mp mem
    exact (step_cases soundV (events n)).rank_le (Nat.lt_of_le_of_lt le lt)
  · intro n unresolved
    obtain ⟨soundV, lt, awaits, isTask⟩ := kept n
    have pending : awaits ≠ .nothing := fun nothing => unresolved ⟨_, isTask, nothing⟩
    obtain ⟨i, le, due⟩ := soundV.due isTask pending
    obtain ⟨m, after, answers⟩ := fair n i due
    obtain ⟨soundM, ltM, -⟩ := kept m
    refine ⟨m, after, Finset.sum_lt_sum (fun j mem => ?_) ⟨i, ?_, ?_⟩⟩
    · have le := Finset.mem_range_succ_iff.mp mem
      exact (step_cases soundM (events m)).rank_le (Nat.lt_of_le_of_lt le ltM)
    · exact Finset.mem_range_succ_iff.mpr le
    · exact rank_answered soundM answers

/-! ### The result -/

theorem Sound.endsSessions (sound : Sound u) : EndsSessions classify u where
  ended event stableKey held absent := sound.ended event held (step_cases sound event) absent
  settles id task verb isTask isVerb events fair := sound.settles isTask fair
  rests stableKey settled := by
    intro snapshot held
    by_cases idle : ∀ id task, u.tasks id = some task → task.stableKey = stableKey →
        ¬ task.Underway
    · exact sound.resting stableKey idle snapshot held
    · push Not at idle
      obtain ⟨id, task, isTask, rfl, underway⟩ := idle
      have session := sound.session id task isTask underway
      cases isJob : task.job with
      | verb verb =>
        have nothing := settled id task verb isTask rfl isJob
        simp [Task.Underway, nothing, Awaits.phase] at underway
      | expire =>
        rw [isJob] at session
        cases held.symm.trans session

/-- Whatever the operator, the network, the modem and the other components of the actor do. -/
theorem endsSessions_run (classify : ε → UssdRegistrationFacts → UssdRefusalReason)
    (events : List (Event ε)) : EndsSessions classify (run classify events) :=
  (sound_run events).endsSessions

/-- The stored session is dropped though the modem has not said that it is idle, and no `Cancel` was
its last call. -/
def Abandons (classify : ε → UssdRegistrationFacts → UssdRefusalReason) (u : MmUssd ε)
    (event : Event ε) (stableKey : JsString) : Prop :=
  u.sessions stableKey ≠ none ∧ (u.step classify event).sessions stableKey = none ∧
    (∀ id reply, event = .reply id reply → readUssdState reply ≠ USSD_STATE_IDLE) ∧
    (u.step classify event).lastCall stableKey ≠ some .cancel

/-- The network has asked for an answer; the state read after its reply is rejected. -/
theorem abandons_unread : Abandons (fun _ _ => .transportFailed)
    (run (fun (_ : Unit) _ => .transportFailed)
      [.verb (js "slot:a") (js "/Modem/0") (.initiate (js "*101#")), .turn 0, .reply 0 (.ok [])])
    (.reply 0 (.error ())) (js "slot:a") := by
  refine ⟨nofun, rfl, ?_, by decide⟩
  rintro id reply ⟨⟩
  exact nofun

end MmUssd

end ModemStack.Ussd
