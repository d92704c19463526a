import ModemStack.Ussd.MmUssd

/-!
What a step of the adapter does, and what every step keeps.

The tasks of a key take turns, so the stored session of a key is decided by the one task of it
that is under way (`Sound.session`), and is resting when there is none (`Sound.resting`).
-/

namespace ModemStack.Ussd

open ModemStack.Async ModemStack.Backend ModemStack.Text

namespace MmUssd

variable {ε : Type} {classify : ε → UssdRegistrationFacts → UssdRefusalReason} {u : MmUssd ε}
  {id : Nat} {task : Task ε}

def Awaits.phase : Awaits ε → Phase
  | .turn => .queued
  | .nothing => .settled
  | _ => .running

def Task.Underway (task : Task ε) : Prop := task.awaits.phase = .running

/-- The call of the bus that a task makes. -/
def Job.call : Job → UssdVerb
  | .verb v => v
  | .expire _ => .cancel

/-- The session of the key while the task is under way. -/
def Job.session : Job → Option UssdSessionSnapshot
  | .verb v => some v.dispatched
  | .expire _ => none

/-- An expiry reads nothing, a cancel reads no state. -/
def Task.Fits (task : Task ε) : Prop :=
  match task.job, task.awaits with
  | .expire _, .state _ => False
  | .expire _, .registration _ => False
  | .verb .cancel, .state _ => False
  | _, _ => True

/-- A task and its call of the actor. -/
def Task.Agrees (task : Task ε) (call : ModemActor.Call ε (Option UssdVerbResult)) : Prop :=
  call.stableKey = task.stableKey ∧ call.quiesced = false ∧
    match task.awaits with
    | .turn => call.stage = .queued
    | .nothing => ∃ result, call.stage = .settled result
    | _ => call.stage = .running

theorem Task.Agrees.phase {call : ModemActor.Call ε (Option UssdVerbResult)}
    (agrees : task.Agrees call) : call.stage.phase = task.awaits.phase := by
  obtain ⟨-, -, stage⟩ := agrees
  generalize task.awaits = awaits at stage ⊢
  cases awaits with
  | turn => rw [stage]; rfl
  | nothing => obtain ⟨result, stage⟩ := stage; rw [stage]; rfl
  | reply | state | registration => rw [stage]; rfl

/-- The last call made for a key. -/
def lastCall (u : MmUssd ε) (stableKey : JsString) : Option UssdVerb :=
  (u.dialled.find? fun entry => entry.1 = stableKey).map Prod.snd

/-! ### What a step does -/

/-- What becomes of the entries of a task's key, the call it makes, and what it awaits next. -/
structure After (ε : Type) where
  session : Option UssdSessionSnapshot
  timer : Option Timer
  successes : Nat
  call : Option UssdVerb
  awaits : Awaits ε

def move (u : MmUssd ε) (id : Nat) (task : Task ε)
    (actor : ModemActor ε (Option UssdVerbResult)) (after : After ε) : MmUssd ε where
  actor
  sessions := Function.update u.sessions task.stableKey after.session
  timers := Function.update u.timers task.stableKey after.timer
  tasks := Function.update u.tasks id (some { task with awaits := after.awaits })
  dialled := (after.call.map fun call => (task.stableKey, call)).toList ++ u.dialled
  successes := Function.update u.successes task.stableKey after.successes

/-- The entries of the key are left alone. -/
def stay (u : MmUssd ε) (task : Task ε) (awaits : Awaits ε) : After ε where
  session := u.sessions task.stableKey
  timer := u.timers task.stableKey
  successes := u.successes task.stableKey
  call := none
  awaits

/-- What a turn or an answer does to its task. -/
inductive Effect (u : MmUssd ε) (id : Nat) (task : Task ε) : Event ε → After ε → Prop where
  /-- The verb is refused, or the expiry finds no session. -/
  | refused (turn : task.awaits = .turn) (ready : u.actor.tails.Ready id) :
      Effect u id task (.turn id) (u.stay task .nothing)
  | dispatched (verb : UssdVerb) (isVerb : task.job = .verb verb) (turn : task.awaits = .turn)
      (ready : u.actor.tails.Ready id)
      (accepted : reduceUssdSession (u.snapshot task.stableKey) verb.event = .ok verb.dispatched) :
      Effect u id task (.turn id)
        ⟨some verb.dispatched, none, u.successes task.stableKey, some verb, .reply⟩
  | expired (armed : Nat) (isExpiry : task.job = .expire armed) (turn : task.awaits = .turn)
      (ready : u.actor.tails.Ready id) (held : u.sessions task.stableKey ≠ none) :
      Effect u id task (.turn id) ⟨none, none, u.successes task.stableKey, some .cancel, .reply⟩
  | answered (reply : Reply ε) (verb : UssdVerb) (isVerb : task.job = .verb verb)
      (replied : task.awaits = .reply) (awaits : Awaits ε)
      (next : awaits matches .state _ ∧ verb ≠ .cancel ∨ awaits matches .registration _) :
      Effect u id task (.reply id reply) (u.stay task awaits)
  /-- The cancel of an expiry is answered, or rejected. -/
  | ended (reply : Reply ε) (armed : Nat) (isExpiry : task.job = .expire armed)
      (replied : task.awaits = .reply) :
      Effect u id task (.reply id reply) (u.stay task .nothing)
  | cancelled (body : List DbusValue) (isCancel : task.job = .verb .cancel)
      (replied : task.awaits = .reply) :
      Effect u id task (.reply id (.ok body))
        ⟨none, none, u.successes task.stableKey + 1, none, .nothing⟩
  | released (reply : Reply ε) (verb : UssdVerb) (isVerb : task.job = .verb verb)
      (ussdReply : JsString) (read : task.awaits = .state ussdReply)
      (isReleased : decodeRepliedState (readUssdState reply) = .released) :
      Effect u id task (.reply id reply)
        ⟨none, none, u.successes task.stableKey + 1, none, .nothing⟩
  | heldOpen (reply : Reply ε) (verb : UssdVerb) (isVerb : task.job = .verb verb)
      (ussdReply : JsString) (read : task.awaits = .state ussdReply)
      (snapshot : UssdSessionSnapshot) (resting : snapshot.Resting) :
      Effect u id task (.reply id reply)
        ⟨some snapshot, some ⟨task.modem, false, u.successes task.stableKey + 1⟩,
          u.successes task.stableKey + 1, none, .nothing⟩
  | failed (facts : UssdRegistrationFacts) (verb : UssdVerb) (isVerb : task.job = .verb verb)
      (error : ε) (read : task.awaits = .registration error) :
      Effect u id task (.registered id facts)
        ⟨none, none, u.successes task.stableKey, none, .nothing⟩

/-- The actor has gone on with one call, which now agrees with `task`. -/
structure WentOn (actor actor' : ModemActor ε (Option UssdVerbResult)) (id : Nat)
    (task : Task ε) : Prop where
  linked : ModemActor.Linked actor'
  submitted : actor'.submitted = actor.submitted
  others : ∀ i, i ≠ id → actor'.calls i = actor.calls i
  agrees : ∃ call, actor'.calls id = some call ∧ task.Agrees call

inductive Stepped (u : MmUssd ε) : Event ε → MmUssd ε → Prop where
  | same (event : Event ε) : Stepped u event u
  | moves (event : Event ε) (id : Nat) (task : Task ε)
      (actor : ModemActor ε (Option UssdVerbResult)) (after : After ε)
      (isTask : u.tasks id = some task) (effect : Effect u id task event after)
      (wentOn : WentOn u.actor actor id { task with awaits := after.awaits }) :
      Stepped u event (u.move id task actor after)
  | submits (stableKey modem : JsString) (verb : UssdVerb) :
      Stepped u (.verb stableKey modem verb) (u.submit stableKey modem (.verb verb))
  | fires (stableKey : JsString) (timer : Timer) (isTimer : u.timers stableKey = some timer)
      (pending : timer.fired = false) :
      Stepped u (.fire stableKey) { u.submit stableKey timer.modem (.expire timer.armed) with
        timers := Function.update u.timers stableKey (some { timer with fired := true }) }
  | works (event : ModemActor.Event ε (Option UssdVerbResult))
      (foreign : ∀ id answer, event = .resume id answer → u.tasks id = none) :
      Stepped u (.actor event) { u with actor := u.actor.step event }
  | stops : Stepped u .stop u.stop

/-! ### The invariant -/

structure Sound (u : MmUssd ε) : Prop where
  linked : ModemActor.Linked u.actor
  agrees : ∀ id task, u.tasks id = some task →
    ∃ call, u.actor.calls id = some call ∧ task.Agrees call
  fits : ∀ id task, u.tasks id = some task → task.Fits
  session : ∀ id task, u.tasks id = some task → task.Underway →
    u.sessions task.stableKey = task.job.session
  resting : ∀ stableKey,
    (∀ id task, u.tasks id = some task → task.stableKey = stableKey → ¬ task.Underway) →
    ∀ snapshot, u.sessions stableKey = some snapshot → snapshot.Resting
  timed : ∀ stableKey timer, u.timers stableKey = some timer →
    timer.armed = u.successes stableKey ∧
      ∃ snapshot, u.sessions stableKey = some snapshot ∧ snapshot.Resting
  called : ∀ id task, u.tasks id = some task → task.Underway →
    u.lastCall task.stableKey = some task.job.call

namespace Sound

theorem new : Sound (.new : MmUssd ε) where
  linked := .new
  agrees := nofun
  fits := nofun
  session := nofun
  resting := nofun
  timed := nofun
  called := nofun

theorem inPhase (sound : Sound u) (isTask : u.tasks id = some task) :
    u.actor.tails.InPhase id task.stableKey task.awaits.phase := by
  obtain ⟨call, isCall, agrees⟩ := sound.agrees id task isTask
  have inPhase := sound.linked.inPhase isCall
  rw [agrees.1, agrees.phase] at inPhase
  exact inPhase

theorem lt_submitted (sound : Sound u) (isTask : u.tasks id = some task) :
    id < u.actor.submitted := by
  obtain ⟨call, isCall, -⟩ := sound.agrees id task isTask
  exact sound.linked.calls_lt isCall

variable {other : Task ε}

variable {i : Nat}

/-- One task of a key is under way at most. -/
theorem exclusive (sound : Sound u) (isTask : u.tasks id = some task)
    (isOther : u.tasks i = some other) (same : other.stableKey = task.stableKey)
    (underway : task.Underway) (underway' : other.Underway) : i = id := by
  have inPhase := sound.inPhase isTask
  have inPhase' := sound.inPhase isOther
  rw [underway] at inPhase
  rw [underway', same] at inPhase'
  exact sound.linked.chain.exclusive inPhase' inPhase

/-- A task that is under way or done has only settled tasks of its key before it. -/
theorem fifo (sound : Sound u) (isTask : u.tasks id = some task) (isOther : u.tasks i = some other)
    (same : other.stableKey = task.stableKey) (begun : task.awaits.phase ≠ .queued) (lt : i < id) :
    other.awaits.phase = .settled := by
  have inPhase' := sound.inPhase isOther
  rw [same] at inPhase'
  exact sound.linked.chain.fifo inPhase' (sound.inPhase isTask) begun lt

/-- A task whose turn has come has only settled tasks of its key before it. -/
theorem settled_before (sound : Sound u) (isTask : u.tasks id = some task)
    (ready : u.actor.tails.Ready id) (isOther : u.tasks i = some other)
    (same : other.stableKey = task.stableKey) (lt : i < id) : other.awaits.phase = .settled := by
  obtain ⟨prior, isJob⟩ := sound.inPhase isTask
  obtain ⟨prior', isJob'⟩ := sound.inPhase isOther
  exact sound.linked.chain.before_ready ready isJob isJob' same lt

/-- While a task of a key takes its turn, no task of it is under way. -/
theorem none_underway (sound : Sound u) (isTask : u.tasks id = some task)
    (turn : task.awaits = .turn) (ready : u.actor.tails.Ready id) (isOther : u.tasks i = some other)
    (same : other.stableKey = task.stableKey) : ¬ other.Underway := by
  intro underway
  obtain lt | rfl | gt := Nat.lt_trichotomy i id
  · have settled := sound.settled_before isTask ready isOther same lt
    rw [underway] at settled
    cases settled
  · cases isTask.symm.trans isOther
    simp [Task.Underway, turn, Awaits.phase] at underway
  · have settled := sound.fifo isOther isTask same.symm (by rw [underway]; exact nofun) gt
    simp [turn, Awaits.phase] at settled

end Sound

/-! ### One task goes on -/

namespace Effect

variable {event : Event ε} {after : After ε}

/-- The task has its turn, or is under way. -/
theorem began (effect : Effect u id task event after) :
    task.awaits = .turn ∧ u.actor.tails.Ready id ∨ task.Underway := by
  cases effect with
  | refused turn ready | dispatched verb isVerb turn ready accepted
  | expired armed isExpiry turn ready held => exact .inl ⟨turn, ready⟩
  | answered reply verb isVerb replied awaits next
  | ended reply armed isExpiry replied
  | cancelled body isCancel replied => simp [Task.Underway, replied, Awaits.phase]
  | released reply verb isVerb ussdReply read isReleased => simp [Task.Underway, read, Awaits.phase]
  | heldOpen reply verb isVerb ussdReply read snapshot resting =>
    simp [Task.Underway, read, Awaits.phase]
  | failed facts verb isVerb error read => simp [Task.Underway, read, Awaits.phase]

theorem begun (effect : Effect u id task event after) : after.awaits ≠ .turn := by
  cases effect with
  | answered reply verb isVerb replied awaits next =>
    rintro rfl
    simp at next
  | _ => exact nofun

/-- No other task of the key is under way meanwhile. -/
theorem alone (effect : Effect u id task event after) (sound : Sound u)
    (isTask : u.tasks id = some task) {i : Nat} {other : Task ε} (isOther : u.tasks i = some other)
    (same : other.stableKey = task.stableKey) (differs : i ≠ id) : ¬ other.Underway := by
  obtain ⟨turn, ready⟩ | underway := effect.began
  · exact sound.none_underway isTask turn ready isOther same
  · exact fun underway' => differs (sound.exclusive isTask isOther same underway underway')

theorem fits (effect : Effect u id task event after) :
    ({ task with awaits := after.awaits } : Task ε).Fits := by
  cases effect with
  | refused => simp only [Task.Fits, stay]; split <;> trivial
  | dispatched | expired => simp only [Task.Fits]; split <;> trivial
  | answered reply verb isVerb replied awaits next =>
    simp only [Task.Fits, stay, isVerb]
    split <;> grind
  | ended => simp only [Task.Fits, stay]; split <;> trivial
  | cancelled | released => simp only [Task.Fits]; split <;> trivial
  | heldOpen =>
    simp only [Task.Fits]
    split <;> trivial
  | failed => simp only [Task.Fits]; split <;> trivial

/-- The stored session of a task that is under way afterwards. -/
theorem session (effect : Effect u id task event after) (sound : Sound u)
    (isTask : u.tasks id = some task) (underway : after.awaits.phase = .running) :
    after.session = task.job.session := by
  cases effect with
  | refused => cases underway
  | dispatched verb isVerb turn ready accepted => rw [isVerb]; rfl
  | expired armed isExpiry turn ready held => rw [isExpiry]; rfl
  | answered reply verb isVerb replied awaits next =>
    exact sound.session id task isTask (by simp [Task.Underway, replied, Awaits.phase])
  | ended | cancelled | released | heldOpen | failed => cases underway

/-- The stored session once the task is done. -/
theorem resting (effect : Effect u id task event after) (sound : Sound u)
    (isTask : u.tasks id = some task) (done : after.awaits.phase ≠ .running) :
    ∀ snapshot, after.session = some snapshot → snapshot.Resting := by
  cases effect with
  | refused turn ready =>
    exact sound.resting task.stableKey fun i other isOther same =>
      sound.none_underway isTask turn ready isOther same
  | dispatched | expired => exact absurd rfl done
  | answered reply verb isVerb replied awaits next =>
    refine absurd ?_ done
    cases awaits <;> simp_all [stay, Awaits.phase]
  | ended reply armed isExpiry replied =>
    have session := sound.session id task isTask (by simp [Task.Underway, replied, Awaits.phase])
    simp [stay, session, isExpiry, Job.session]
  | cancelled | released => exact nofun
  | heldOpen reply verb isVerb ussdReply read snapshot resting =>
    rintro _ ⟨⟩
    exact resting
  | failed => exact nofun

theorem timed (effect : Effect u id task event after) (sound : Sound u) :
    ∀ timer, after.timer = some timer → timer.armed = after.successes ∧
      ∃ snapshot, after.session = some snapshot ∧ snapshot.Resting := by
  cases effect with
  | refused => exact sound.timed task.stableKey
  | dispatched | expired => exact nofun
  | answered | ended => exact sound.timed task.stableKey
  | cancelled | released => exact nofun
  | heldOpen reply verb isVerb ussdReply read snapshot resting =>
    rintro _ ⟨⟩
    exact ⟨rfl, snapshot, rfl, resting⟩
  | failed => exact nofun

/-- A task that is under way afterwards has made its call. -/
theorem called (effect : Effect u id task event after) (sound : Sound u)
    (isTask : u.tasks id = some task) (underway : after.awaits.phase = .running) :
    after.call = some task.job.call ∨
      after.call = none ∧ u.lastCall task.stableKey = some task.job.call := by
  cases effect with
  | refused => cases underway
  | dispatched verb isVerb turn ready accepted => left; rw [isVerb]; rfl
  | expired armed isExpiry turn ready held => left; rw [isExpiry]; rfl
  | answered reply verb isVerb replied awaits next =>
    exact .inr ⟨rfl, sound.called id task isTask (by simp [Task.Underway, replied, Awaits.phase])⟩
  | ended | cancelled | released | heldOpen | failed => cases underway

end Effect

variable {actor : ModemActor ε (Option UssdVerbResult)}

theorem lastCall_move {after : After ε} (stableKey : JsString) :
    (u.move id task actor after).lastCall stableKey =
      if stableKey = task.stableKey then after.call.or (u.lastCall stableKey)
      else u.lastCall stableKey := by
  unfold lastCall move
  cases after.call with
  | none => simp
  | some =>
    by_cases same : task.stableKey = stableKey
    · simp [same]
    · simp [same, Ne.symm same]

/-- A task after a move is the one that went on, or one that was there. -/
theorem move_tasks {after : After ε} {i : Nat} {other : Task ε}
    (isOther : (u.move id task actor after).tasks i = some other) :
    i = id ∧ other = { task with awaits := after.awaits } ∨ i ≠ id ∧ u.tasks i = some other := by
  simp only [move, Function.update_apply] at isOther
  split at isOther
  · next eq => exact .inl ⟨eq, (Option.some.inj isOther).symm⟩
  · next differs => exact .inr ⟨differs, isOther⟩

theorem Sound.move (sound : Sound u) {event : Event ε} {after : After ε}
    (isTask : u.tasks id = some task) (effect : Effect u id task event after)
    (wentOn : WentOn u.actor actor id { task with awaits := after.awaits }) :
    Sound (u.move id task actor after) where
  linked := wentOn.linked
  agrees i other isOther := by
    obtain ⟨rfl, rfl⟩ | ⟨differs, isOther⟩ := move_tasks isOther
    · exact wentOn.agrees
    · obtain ⟨call, isCall, agrees⟩ := sound.agrees i other isOther
      exact ⟨call, (wentOn.others i differs).trans isCall, agrees⟩
  fits i other isOther := by
    obtain ⟨rfl, rfl⟩ | ⟨-, isOther⟩ := move_tasks isOther
    · exact effect.fits
    · exact sound.fits i other isOther
  session i other isOther underway := by
    obtain ⟨rfl, rfl⟩ | ⟨differs, isOther⟩ := move_tasks isOther
    · simpa [MmUssd.move] using effect.session sound isTask underway
    · have elsewhere : other.stableKey ≠ task.stableKey :=
        fun same => effect.alone sound isTask isOther same differs underway
      simpa [MmUssd.move, elsewhere] using sound.session i other isOther underway
  resting stableKey idle := by
    by_cases same : stableKey = task.stableKey
    · subst same
      have done := idle id { task with awaits := after.awaits } (by simp [MmUssd.move]) rfl
      simpa [MmUssd.move] using effect.resting sound isTask done
    · have idle' : ∀ i other, u.tasks i = some other → other.stableKey = stableKey →
          ¬ other.Underway := by
        intro i other isOther isKey
        have differs : i ≠ id := by
          rintro rfl
          cases isOther.symm.trans isTask
          exact same isKey.symm
        exact idle i other (by simp [MmUssd.move, differs, isOther]) isKey
      simpa [MmUssd.move, same] using sound.resting stableKey idle'
  timed stableKey timer isTimer := by
    by_cases same : stableKey = task.stableKey
    · subst same
      simp only [MmUssd.move, Function.update_self] at isTimer ⊢
      exact effect.timed sound timer isTimer
    · simp only [MmUssd.move, Function.update_of_ne same] at isTimer ⊢
      exact sound.timed stableKey timer isTimer
  called i other isOther underway := by
    rw [lastCall_move]
    obtain ⟨rfl, rfl⟩ | ⟨differs, isOther⟩ := move_tasks isOther
    · rw [if_pos rfl]
      obtain made | ⟨made, before⟩ := effect.called sound isTask underway
      · rw [made]
        rfl
      · rw [made]
        exact before
    · rw [if_neg fun same => effect.alone sound isTask isOther same differs underway]
      exact sound.called i other isOther underway

/-! ### The other steps -/

theorem submit_tasks {stableKey modem : JsString} {job : Job} {i : Nat} {other : Task ε}
    (isOther : (u.submit stableKey modem job).tasks i = some other) :
    i = u.actor.submitted ∧ other = ⟨stableKey, modem, job, .turn⟩ ∨ u.tasks i = some other := by
  simp only [submit, Function.update_apply] at isOther
  split at isOther
  · next eq => exact .inl ⟨eq, (Option.some.inj isOther).symm⟩
  · exact .inr isOther

namespace Sound

theorem tasks_submit (sound : Sound u) (isTask : u.tasks id = some task)
    (stableKey modem : JsString) (job : Job) :
    (u.submit stableKey modem job).tasks id = some task := by
  simp [MmUssd.submit, Function.update_of_ne (sound.lt_submitted isTask).ne, isTask]

theorem submit (sound : Sound u) (stableKey modem : JsString) (job : Job) :
    Sound (u.submit stableKey modem job) where
  linked := sound.linked.enqueue stableKey false
  agrees i other isOther := by
    obtain ⟨rfl, rfl⟩ | isOther := submit_tasks isOther
    · exact ⟨.new stableKey false, by simp [MmUssd.submit, ModemActor.enqueue], rfl, rfl, rfl⟩
    · obtain ⟨call, isCall, agrees⟩ := sound.agrees i other isOther
      exact ⟨call, ModemActor.calls_enqueue sound.linked stableKey false isCall, agrees⟩
  fits i other isOther := by
    obtain ⟨rfl, rfl⟩ | isOther := submit_tasks isOther
    · simp [Task.Fits]
    · exact sound.fits i other isOther
  session i other isOther underway := by
    obtain ⟨rfl, rfl⟩ | isOther := submit_tasks isOther
    · cases underway
    · exact sound.session i other isOther underway
  resting key idle := by
    refine sound.resting key fun i other isOther => ?_
    exact idle i other (sound.tasks_submit isOther stableKey modem job)
  timed := sound.timed
  called i other isOther underway := by
    obtain ⟨rfl, rfl⟩ | isOther := submit_tasks isOther
    · cases underway
    · exact sound.called i other isOther underway

theorem withTimers (sound : Sound u) {timers : JsString → Option Timer}
    (timed : ∀ stableKey timer, timers stableKey = some timer →
      ∃ before, u.timers stableKey = some before ∧ before.armed = timer.armed) :
    Sound { u with timers } where
  linked := sound.linked
  agrees := sound.agrees
  fits := sound.fits
  session := sound.session
  resting := sound.resting
  timed stableKey timer isTimer := by
    obtain ⟨before, isBefore, same⟩ := timed stableKey timer isTimer
    rw [← same]
    exact sound.timed stableKey before isBefore
  called := sound.called

theorem works (sound : Sound u) {event : ModemActor.Event ε (Option UssdVerbResult)}
    (foreign : ∀ id answer, event = .resume id answer → u.tasks id = none) :
    Sound { u with actor := u.actor.step event } where
  linked := sound.linked.step event
  agrees i other isOther := by
    obtain ⟨call, isCall, key, plain, stage⟩ := sound.agrees i other isOther
    have elsewhere (answer : ModemActor.Answer ε (Option UssdVerbResult)) :
        event ≠ .resume i answer := by
      intro resumes
      rw [foreign i answer resumes] at isOther
      cases isOther
    obtain ⟨call', isCall', same⟩ := ModemActor.alike_step sound.linked event isCall elsewhere
    refine ⟨call', isCall', same.stableKey.trans key, same.quiesced.trans plain, ?_⟩
    rw [same.stage]
    exact stage
  fits := sound.fits
  session := sound.session
  resting := sound.resting
  timed := sound.timed
  called := sound.called

theorem stepped (sound : Sound u) {event : Event ε} {u' : MmUssd ε}
    (stepped : Stepped u event u') : Sound u' := by
  cases stepped with
  | same => exact sound
  | moves event id task actor after isTask effect wentOn => exact sound.move isTask effect wentOn
  | submits stableKey modem verb => exact sound.submit stableKey modem (.verb verb)
  | fires stableKey timer isTimer pending =>
    refine (sound.submit stableKey timer.modem (.expire timer.armed)).withTimers ?_
    intro key after isAfter
    simp only [Function.update_apply] at isAfter
    split at isAfter
    · next eq =>
      subst eq
      cases isAfter
      exact ⟨timer, isTimer, rfl⟩
    · exact ⟨after, isAfter, rfl⟩
  | works event foreign => exact sound.works foreign
  | stops => exact sound.withTimers nofun

end Sound

/-! ### The steps of the model -/

section Goes

variable {after : After ε}

/-- The actor's part of a turn that leads to an await. -/
theorem wentOn_begins (sound : Sound u) (isTask : u.tasks id = some task)
    (turn : task.awaits = .turn) (ready : u.actor.tails.Ready id) (awaits : Awaits ε)
    (running : awaits.phase = .running) :
    WentOn u.actor (u.actor.resume id .priorSettled) id { task with awaits } := by
  obtain ⟨call, isCall, key, plain, stage⟩ := sound.agrees id task isTask
  rw [turn] at stage
  refine ⟨sound.linked.resume id _, ModemActor.submitted_resume,
    fun i differs => ModemActor.calls_resume differs, _,
    ModemActor.resume_begins isCall stage plain ready, key, plain, ?_⟩
  cases awaits with
  | turn | nothing => cases running
  | reply => rfl
  | state => rfl
  | registration => rfl

/-- The actor's part of a task that resolves. -/
theorem wentOn_ends {actor : ModemActor ε (Option UssdVerbResult)} {awaits : Awaits ε}
    (wentOn : WentOn u.actor actor id { task with awaits }) (running : awaits.phase = .running)
    (result : Option UssdVerbResult) :
    WentOn u.actor (actor.resume id (.task (.ok result))) id { task with awaits := .nothing } := by
  obtain ⟨call, isCall, key, plain, stage⟩ := wentOn.agrees
  have isRunning : call.stage = .running := by
    cases awaits with
    | turn | nothing => cases running
    | reply | state | registration => exact stage
  exact ⟨wentOn.linked.resume id _, ModemActor.submitted_resume.trans wentOn.submitted,
    fun i differs => (ModemActor.calls_resume differs).trans (wentOn.others i differs), _,
    ModemActor.resume_ends isCall isRunning plain _, key, plain, _, rfl⟩

/-- The actor is not concerned while a task goes from one await to the next. -/
theorem wentOn_stays (sound : Sound u) (isTask : u.tasks id = some task)
    (underway : task.Underway) (awaits : Awaits ε) (running : awaits.phase = .running) :
    WentOn u.actor u.actor id { task with awaits } := by
  obtain ⟨call, isCall, key, plain, stage⟩ := sound.agrees id task isTask
  have isRunning : call.stage = .running := by
    unfold Task.Underway at underway
    split at stage
    · next turn => rw [turn] at underway; cases underway
    · next nothing => rw [nothing] at underway; cases underway
    · exact stage
  refine ⟨sound.linked, rfl, fun i differs => rfl, call, isCall, key, plain, ?_⟩
  cases awaits with
  | turn | nothing => cases running
  | reply | state | registration => exact isRunning

end Goes

theorem verb_accepted {snapshot after : UssdSessionSnapshot} {verb : UssdVerb}
    (accepted : reduceUssdSession snapshot verb.event = .ok after) : after = verb.dispatched := by
  cases verb with
  | initiate => exact (initiate_accepted accepted).2
  | respond => exact (respond_accepted accepted).2
  | cancel => exact (cancel_accepted accepted).2

/-- The event lets the task go on. -/
def Moves (u : MmUssd ε) (id : Nat) (task : Task ε) (event : Event ε) (u' : MmUssd ε) : Prop :=
  ∃ actor after, Effect u id task event after ∧
    WentOn u.actor actor id { task with awaits := after.awaits } ∧ u' = u.move id task actor after

theorem turn_moves (sound : Sound u) (isTask : u.tasks id = some task)
    (turn : task.awaits = .turn) (ready : u.actor.tails.Ready id) :
    Moves u id task (.turn id) (u.turn id) := by
  have begins := wentOn_begins sound isTask turn ready .reply rfl
  have ends := wentOn_ends begins rfl
  cases isJob : task.job with
  | verb verb =>
    cases accepted : reduceUssdSession (u.snapshot task.stableKey) verb.event with
    | error refusal =>
      refine ⟨_, _, .refused turn ready,
        ends (some ⟨false, u.snapshot task.stableKey, none, some refusal⟩), ?_⟩
      unfold snapshot at accepted
      simp [MmUssd.turn, isTask, turn, ready, isJob, gate, snapshot, accepted, move, stay,
        finish, await]
    | ok =>
      obtain rfl := verb_accepted accepted
      refine ⟨_, _, .dispatched verb isJob turn ready accepted, begins, ?_⟩
      have live : verb.dispatched.state ≠ .closed := by
        cases verb <;> simp [UssdVerb.dispatched, openAt]
      unfold snapshot at accepted
      simp [MmUssd.turn, isTask, turn, ready, isJob, gate, snapshot, accepted, move,
        store, clearTimer, dial, await, live]
  | expire armed =>
    cases held : u.sessions task.stableKey with
    | none =>
      refine ⟨_, _, .refused turn ready, ends none, ?_⟩
      simp [MmUssd.turn, isTask, turn, ready, isJob, held, finish, await, move, stay]
    | some session =>
      have resting := sound.resting task.stableKey (fun i other isOther same =>
        sound.none_underway isTask turn ready isOther same) session held
      have accepted : reduceUssdSession session .timeout = .ok (closeWith .timedOut) := by
        obtain rfl | rfl := resting <;> rfl
      refine ⟨_, _, .expired armed isJob turn ready (by simp [held]), begins, ?_⟩
      simp [MmUssd.turn, isTask, turn, ready, isJob, held, settle, snapshot, accepted, move,
        store, clearTimer, dial, await, closeWith]

/-- A state read is taken by the session of an initiate or a respond. -/
theorem replied_accepted {verb : UssdVerb} (reads : verb ≠ .cancel)
    (sessionState : UssdRepliedState) :
    ∃ after, reduceUssdSession verb.dispatched (.replied sessionState) = .ok after ∧
      after.refusal = none ∧
      (sessionState = .released ∧ after.state = .closed ∨
        sessionState ≠ .released ∧ after.state ≠ .closed ∧ after.Resting) := by
  cases verb with
  | initiate | respond =>
    cases sessionState with
    | released => exact ⟨_, rfl, rfl, .inl ⟨rfl, rfl⟩⟩
    | active => exact ⟨_, rfl, rfl, .inr ⟨nofun, nofun, .inl rfl⟩⟩
    | awaitingReply => exact ⟨_, rfl, rfl, .inr ⟨nofun, nofun, .inr rfl⟩⟩
  | cancel => exact absurd rfl reads

theorem reply_moves (sound : Sound u) (isTask : u.tasks id = some task)
    (replied : task.awaits = .reply) (reply : Reply ε) :
    Moves u id task (.reply id reply) (u.reply id reply) := by
  have underway : task.Underway := by simp [Task.Underway, replied, Awaits.phase]
  have same : ({ task with awaits := .reply } : Task ε) = task := by rw [← replied]
  have stays := wentOn_stays sound isTask underway
  have ends := wentOn_ends (stays .reply rfl) rfl
  have session := sound.session id task isTask underway
  cases isJob : task.job with
  | expire armed =>
    refine ⟨_, _, .ended reply armed isJob replied, ends none, ?_⟩
    simp [MmUssd.reply, isTask, replied, isJob, finish, await, move, stay]
  | verb verb =>
    rw [isJob] at session
    cases reply with
    | error error =>
      refine ⟨_, _, .answered _ verb isJob replied (.registration error) (.inr rfl),
        stays (.registration error) rfl, ?_⟩
      cases verb <;> simp [MmUssd.reply, isTask, replied, isJob, await, move, stay]
    | ok body =>
      by_cases cancels : verb = .cancel
      · subst cancels
        have accepted : reduceUssdSession (openAt .cancelling) .cancelled =
          .ok (closeWith .cancelled) := rfl
        refine ⟨_, _, .cancelled body isJob replied,
          ends (some ⟨true, closeWith .cancelled, none, none⟩), ?_⟩
        simp [MmUssd.reply, isTask, replied, isJob, settle, snapshot, session, Job.session,
          UssdVerb.dispatched, accepted, store, clearTimer, closeWith, count, finish, await,
          move]
      · refine ⟨_, _, .answered _ verb isJob replied (.state (firstString body))
          (.inl ⟨rfl, cancels⟩), stays (.state (firstString body)) rfl, ?_⟩
        cases verb with
        | initiate | respond => simp [MmUssd.reply, isTask, replied, isJob, await, move, stay]
        | cancel => exact absurd rfl cancels

theorem state_moves (sound : Sound u) (isTask : u.tasks id = some task) {ussdReply : JsString}
    (read : task.awaits = .state ussdReply) (reply : Reply ε) :
    Moves u id task (.reply id reply) (u.reply id reply) := by
  have underway : task.Underway := by simp [Task.Underway, read, Awaits.phase]
  have ends := wentOn_ends (wentOn_stays sound isTask underway (.state ussdReply) rfl) rfl
  have session := sound.session id task isTask underway
  have fits := sound.fits id task isTask
  cases isJob : task.job with
  | expire => simp [Task.Fits, isJob, read] at fits
  | verb verb =>
    have reads : verb ≠ .cancel := by
      rintro rfl
      simp [Task.Fits, isJob, read] at fits
    rw [isJob] at session
    obtain ⟨after, accepted, success, ⟨isReleased, closed⟩ | ⟨isOpen, live, resting⟩⟩ :=
      replied_accepted reads (decodeRepliedState (readUssdState reply))
    · refine ⟨_, _, .released reply verb isJob ussdReply read isReleased,
        ends (some ⟨true, after, some ussdReply, none⟩), ?_⟩
      rw [isReleased] at accepted
      simp [MmUssd.reply, isTask, read, isJob, settle, snapshot, session, Job.session,
        accepted, store, clearTimer, closed, success, count, isReleased, finish, await, move]
    · refine ⟨_, _, .heldOpen reply verb isJob ussdReply read after resting,
        ends (some ⟨true, after, some ussdReply, none⟩), ?_⟩
      simp [MmUssd.reply, isTask, read, isJob, settle, snapshot, session, Job.session,
        accepted, store, clearTimer, live, success, count, isOpen, armIdleTimeout, finish, await,
        move]

theorem registered_moves (sound : Sound u) (isTask : u.tasks id = some task) {error : ε}
    (read : task.awaits = .registration error) (facts : UssdRegistrationFacts) :
    Moves u id task (.registered id facts) (u.registered classify id facts) := by
  have underway : task.Underway := by simp [Task.Underway, read, Awaits.phase]
  have ends := wentOn_ends (wentOn_stays sound isTask underway (.registration error) rfl) rfl
  have session := sound.session id task isTask underway
  have fits := sound.fits id task isTask
  cases isJob : task.job with
  | expire => simp [Task.Fits, isJob, read] at fits
  | verb verb =>
    rw [isJob] at session
    have accepted : reduceUssdSession verb.dispatched (.failed (classify error facts)) =
        .ok (closeFailed (classify error facts)) := by
      cases verb <;> rfl
    refine ⟨_, _, .failed facts verb isJob error read,
      ends (some ⟨false, closeFailed (classify error facts), none, classify error facts⟩), ?_⟩
    simp [MmUssd.registered, isTask, read, settle, snapshot, session, Job.session,
      accepted, store, clearTimer, closeFailed, count, finish, await, move]

theorem Moves.stepped {event : Event ε} {u' : MmUssd ε} (moves : Moves u id task event u')
    (isTask : u.tasks id = some task) : Stepped u event u' := by
  obtain ⟨actor, after, effect, wentOn, rfl⟩ := moves
  exact .moves event id task actor after isTask effect wentOn

theorem step_cases (sound : Sound u) (event : Event ε) :
    Stepped u event (u.step classify event) := by
  cases event with
  | verb stableKey modem verb => exact .submits stableKey modem verb
  | fire stableKey =>
    simp only [step, fire]
    split
    · exact .same _
    · next timer isTimer =>
      split
      · exact .same _
      · next pending => exact .fires stableKey timer isTimer (Bool.eq_false_iff.mpr pending)
  | turn id =>
    by_cases due : ∃ task, u.tasks id = some task ∧ task.awaits = .turn ∧ u.actor.tails.Ready id
    · obtain ⟨task, isTask, turn, ready⟩ := due
      exact (turn_moves sound isTask turn ready).stepped isTask
    · have same : u.turn id = u := by
        unfold turn
        split
        · rfl
        · next task isTask =>
          split
          · next turn => exact if_neg fun ready => due ⟨task, isTask, turn, ready⟩
          · rfl
      rw [step, same]
      exact .same _
  | reply id reply =>
    by_cases due : ∃ task, u.tasks id = some task ∧
      (task.awaits = .reply ∨ ∃ ussdReply, task.awaits = .state ussdReply)
    · obtain ⟨task, isTask, replied | ⟨ussdReply, read⟩⟩ := due
      · exact (reply_moves sound isTask replied reply).stepped isTask
      · exact (state_moves sound isTask read reply).stepped isTask
    · have same : u.reply id reply = u := by
        unfold MmUssd.reply
        split
        · rfl
        · next task isTask =>
          push Not at due
          obtain ⟨notReply, notState⟩ := due task isTask
          split
          · next replied _ => exact absurd replied notReply
          · next replied _ => exact absurd replied notReply
          · next replied _ => exact absurd replied notReply
          · next ussdReply read => exact absurd read (notState ussdReply)
          · rfl
      rw [step, same]
      exact .same _
  | registered id facts =>
    by_cases due : ∃ task error, u.tasks id = some task ∧ task.awaits = .registration error
    · obtain ⟨task, error, isTask, read⟩ := due
      exact (registered_moves sound isTask read facts).stepped isTask
    · have same : u.registered classify id facts = u := by
        unfold registered
        split
        · rfl
        · next task isTask =>
          split
          · next error read => exact absurd ⟨task, error, isTask, read⟩ due
          · rfl
      rw [step, same]
      exact .same _
  | actor event =>
    by_cases own : ∃ id answer, event = .resume id answer ∧ (u.tasks id).isSome
    · obtain ⟨id, answer, rfl, isTask⟩ := own
      simp only [step, MmUssd.onActor, isTask, if_true]
      exact .same _
    · have eq : u.onActor event = { u with actor := u.actor.step event } := by
        unfold MmUssd.onActor
        split
        · next id answer => exact if_neg fun isTask => own ⟨id, answer, rfl, isTask⟩
        · rfl
      rw [step, eq]
      refine .works event fun id answer resumes => ?_
      by_contra isTask
      exact own ⟨id, answer, resumes, Option.isSome_iff_ne_none.mpr isTask⟩
  | stop => exact .stops

theorem sound_run (events : List (Event ε)) : Sound (run classify events) :=
  foldl_keeps (fun _ event sound => sound.stepped (step_cases sound event)) .new

end MmUssd
end ModemStack.Ussd
