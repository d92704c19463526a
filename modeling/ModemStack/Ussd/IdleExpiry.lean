import ModemStack.Ussd.MmUssdLaws

/-!
What an idle expiry closes.

The expiry of a timer waits in the actor like a verb and, when its turn comes, closes whatever
session its key has. A respond, or a verb that ends the session and one that opens the next,
may be queued ahead of it. `closesIdle_run` holds of the runs in which no timer fires while an
initiate or a respond of its key waits.
-/

namespace ModemStack.Ussd

open ModemStack.Async ModemStack.Backend ModemStack.Text

namespace MmUssd

variable {ε : Type} {classify : ε → UssdRegistrationFacts → UssdRefusalReason} {u : MmUssd ε}
  {id : Nat} {task : Task ε}

/-! ### The property -/

/-- The turn of task `id` closes the session of `stableKey` as timed out. Its timer was armed when
`armed` verbs of the key had settled successfully. -/
def ClosesTimedOut (u : MmUssd ε) (id : Nat) (stableKey : JsString) (armed : Nat) : Prop :=
  ∃ task, u.tasks id = some task ∧ task.stableKey = stableKey ∧ task.job = .expire armed ∧
    u.sessions stableKey ≠ none ∧ (u.turn id).sessions stableKey = none

/-- An expiry closes the session that its timer was armed for: no verb of the key has settled
successfully since. -/
def ClosesIdle (u : MmUssd ε) : Prop :=
  ∀ id stableKey armed, ClosesTimedOut u id stableKey armed → u.successes stableKey = armed

/-- The verb may leave a session open. -/
def Task.Opens (task : Task ε) : Prop := ∃ verb, task.job = .verb verb ∧ verb ≠ .cancel

/-- A timer fires while no initiate or respond of its key waits in the actor. -/
def FiresApart (u : MmUssd ε) : Event ε → Prop
  | .fire stableKey => ∀ id task, u.tasks id = some task → task.stableKey = stableKey →
      task.Opens → task.awaits.phase ≠ .queued
  | _ => True

/-! ### The invariant -/

/-- An expiry that waits has no initiate or respond of its key ahead of it, and finds the session
its timer was armed for, if any. -/
structure Apart (u : MmUssd ε) : Prop where
  sound : Sound u
  ahead : ∀ id task armed, u.tasks id = some task → task.job = .expire armed →
    task.awaits = .turn → ∀ i other, i < id → u.tasks i = some other →
    other.stableKey = task.stableKey → other.Opens → other.awaits.phase = .settled
  unrenewed : ∀ id task armed, u.tasks id = some task → task.job = .expire armed →
    task.awaits = .turn → u.sessions task.stableKey = none ∨ u.successes task.stableKey = armed

namespace Apart

theorem new : Apart (.new : MmUssd ε) := ⟨.new, nofun, nofun⟩

theorem move (apart : Apart u) {event : Event ε} {after : After ε}
    {actor : ModemActor ε (Option UssdVerbResult)} (isTask : u.tasks id = some task)
    (effect : Effect u id task event after)
    (wentOn : WentOn u.actor actor id { task with awaits := after.awaits }) :
    Apart (u.move id task actor after) := by
  have waits {i : Nat} {waiting : Task ε} (turn : waiting.awaits = .turn)
      (isWaiting : (u.move id task actor after).tasks i = some waiting) :
      i ≠ id ∧ u.tasks i = some waiting := by
    obtain ⟨-, rfl⟩ | isOld := move_tasks isWaiting
    · exact absurd turn effect.begun
    · exact isOld
  have unsettled : task.awaits.phase ≠ .settled := by
    obtain ⟨turn, -⟩ | underway := effect.began
    · simp [turn, Awaits.phase]
    · rw [underway]
      simp
  refine ⟨apart.sound.move isTask effect wentOn, ?_, ?_⟩
  · intro i waiting armed isWaiting isExpiry turn j other lt isOther same opens
    have wasWaiting := (waits turn isWaiting).2
    obtain ⟨rfl, rfl⟩ | ⟨-, isOther⟩ := move_tasks isOther
    · exact absurd
        (apart.ahead i waiting armed wasWaiting isExpiry turn j task lt isTask same opens) unsettled
    · exact apart.ahead i waiting armed wasWaiting isExpiry turn j other lt isOther same opens
  · intro i waiting armed isWaiting isExpiry turn
    obtain ⟨differs, isWaiting⟩ := waits turn isWaiting
    have before := apart.unrenewed i waiting armed isWaiting isExpiry turn
    by_cases same : task.stableKey = waiting.stableKey
    · -- The task that went on is ahead of the expiry, so it opens no session.
      have lt : id < i := by
        by_contra ge
        have lt : i < id := by omega
        have settled : waiting.awaits.phase = .settled := by
          obtain ⟨-, ready⟩ | underway := effect.began
          · exact apart.sound.settled_before isTask ready isWaiting same.symm lt
          · refine apart.sound.fifo isTask isWaiting same.symm ?_ lt
            rw [underway]
            simp
        simp [turn, Awaits.phase] at settled
      have closes : ¬ task.Opens := fun opens =>
        unsettled (apart.ahead i waiting armed isWaiting isExpiry turn id task lt isTask same opens)
      rw [← same] at before
      simp only [MmUssd.move, ← same, Function.update_self]
      cases effect with
      | refused => exact before
      | dispatched verb isVerb _ _ accepted =>
        by_cases cancels : verb = .cancel
        · subst cancels
          right
          refine before.resolve_left fun absent => ?_
          have isOpen := (cancel_accepted accepted).1
          simp [snapshot, absent, isUssdSessionOpen, IDLE_SESSION] at isOpen
        · exact absurd ⟨verb, isVerb, cancels⟩ closes
      | expired => exact .inl rfl
      | answered | ended => exact before
      | cancelled | released => exact .inl rfl
      | heldOpen reply verb isVerb ussdReply read session resting =>
        by_cases cancels : verb = .cancel
        · subst cancels
          have fits := apart.sound.fits id task isTask
          simp [Task.Fits, isVerb, read] at fits
        · exact absurd ⟨verb, isVerb, cancels⟩ closes
      | failed => exact .inl rfl
    · simpa only [MmUssd.move, Function.update_of_ne (Ne.symm same)] using before

theorem submit (apart : Apart u) {stableKey modem : JsString} {job : Job}
    (expiry : ∀ armed, job = .expire armed → u.successes stableKey = armed ∧
      ∀ i other, u.tasks i = some other → other.stableKey = stableKey → other.Opens →
        other.awaits.phase = .settled) : Apart (u.submit stableKey modem job) := by
  refine ⟨apart.sound.submit stableKey modem job, ?_, ?_⟩
  · intro i waiting armed isWaiting isExpiry turn j other lt isOther same opens
    obtain ⟨rfl, rfl⟩ | isWaiting := submit_tasks isWaiting
    · obtain ⟨rfl, -⟩ | isOther := submit_tasks isOther
      · exact absurd lt (Nat.lt_irrefl _)
      · exact (expiry armed isExpiry).2 j other isOther same opens
    · obtain ⟨rfl, -⟩ | isOther := submit_tasks isOther
      · exact absurd (apart.sound.lt_submitted isWaiting) (Nat.lt_asymm lt)
      · exact apart.ahead i waiting armed isWaiting isExpiry turn j other lt isOther same opens
  · intro i waiting armed isWaiting isExpiry turn
    obtain ⟨rfl, rfl⟩ | isWaiting := submit_tasks isWaiting
    · exact .inr (expiry armed isExpiry).1
    · exact apart.unrenewed i waiting armed isWaiting isExpiry turn

/-- A timer is armed while its session rests: no verb of the key is under way when it fires. -/
theorem fires (apart : Apart u) {stableKey : JsString} {timer : Timer}
    (isTimer : u.timers stableKey = some timer)
    (firesApart : FiresApart u (.fire stableKey)) :
    Apart (u.submit stableKey timer.modem (.expire timer.armed)) := by
  obtain ⟨isArmed, session, isSession, resting⟩ := apart.sound.timed stableKey timer isTimer
  refine apart.submit ?_
  rintro _ ⟨⟩
  refine ⟨isArmed.symm, fun i other isOther same opens => ?_⟩
  have notQueued := firesApart i other isOther same opens
  have notUnderway : ¬ other.Underway := by
    intro underway
    obtain ⟨verb, isVerb, -⟩ := opens
    have isDispatched := apart.sound.session i other isOther underway
    rw [same, isSession, isVerb] at isDispatched
    obtain rfl | rfl := resting <;> cases verb <;> cases isDispatched
  unfold Task.Underway at notUnderway
  cases phase : other.awaits.phase with
  | queued => exact absurd phase notQueued
  | running => exact absurd phase notUnderway
  | settled => rfl

theorem stepped (apart : Apart u) {event : Event ε} {u' : MmUssd ε}
    (stepped : Stepped u event u') (firesApart : FiresApart u event) : Apart u' := by
  have sound := apart.sound.stepped stepped
  cases stepped with
  | same => exact apart
  | moves event id task actor after isTask effect wentOn => exact apart.move isTask effect wentOn
  | submits => exact apart.submit nofun
  | fires stableKey timer isTimer pending =>
    have fires := apart.fires isTimer firesApart
    exact ⟨sound, fires.ahead, fires.unrenewed⟩
  | works | stops => exact ⟨sound, apart.ahead, apart.unrenewed⟩

theorem closesIdle (apart : Apart u) : ClosesIdle u := by
  rintro id stableKey armed ⟨task, isTask, rfl, isExpiry, held, closed⟩
  by_cases turn : task.awaits = .turn
  · exact (apart.unrenewed id task armed isTask isExpiry turn).resolve_left held
  · have same : u.turn id = u := by simp only [MmUssd.turn, isTask]
    rw [same] at closed
    exact absurd closed held

end Apart

/-- In a run in which timers fire apart from waiting verbs, an expiry closes the idle session its
timer was armed for, or none. -/
theorem closesIdle_run (classify : ε → UssdRegistrationFacts → UssdRefusalReason)
    (events : List (Event ε)) (firesApart : AllowsEvents (step classify) FiresApart .new events) :
    ClosesIdle (run classify events) := by
  have apart : Apart (run classify events) :=
    foldl_invariant (fun _ event apart firesApart =>
      apart.stepped (step_cases apart.sound event) firesApart) .new firesApart
  exact apart.closesIdle

/-- The reply of the network, and the state read after it: a prompt. -/
def prompted (id : Nat) : List (Event Unit) :=
  [.turn id, .reply id (.ok []), .reply id (.ok [.number USSD_STATE_USER_RESPONSE])]

/-- Every failure of these runs. -/
def unreached : Unit → UssdRegistrationFacts → UssdRefusalReason := fun _ _ => .transportFailed

/-- A dialogue that nobody goes on with after its second prompt. -/
def runUnanswered : List (Event Unit) :=
  [.verb (js "slot:a") (js "/Modem/0") (.initiate (js "*101#"))] ++ prompted 0 ++
    [.verb (js "slot:a") (js "/Modem/0") (.respond (js "1"))] ++ prompted 1 ++
    [.fire (js "slot:a")]

theorem closesIdle_unanswered :
    ClosesTimedOut (run unreached runUnanswered) 2 (js "slot:a") 2 ∧
      (run unreached runUnanswered).successes (js "slot:a") = 2 := by
  have closes : ClosesTimedOut (run unreached runUnanswered) 2 (js "slot:a") 2 :=
    ⟨_, rfl, rfl, rfl, nofun, rfl⟩
  refine ⟨closes, closesIdle_run unreached runUnanswered ?_ 2 (js "slot:a") 2 closes⟩
  refine ⟨trivial, trivial, trivial, trivial, trivial, trivial, trivial, trivial, ?_, trivial⟩
  intro id task isTask _ _
  match id with
  | 0 => cases isTask; exact nofun
  | 1 => cases isTask; exact nofun
  | id + 2 => cases isTask

/-- While another task of the modem runs, a respond is queued and the timer fires behind it. The
respond renews the dialogue. -/
def runRenewed : List (Event Unit) :=
  [.verb (js "slot:a") (js "/Modem/0") (.initiate (js "*101#"))] ++ prompted 0 ++
    [.actor (.run (js "slot:a")), .actor (.resume 1 .priorSettled),
      .verb (js "slot:a") (js "/Modem/0") (.respond (js "1")), .fire (js "slot:a"),
      .actor (.resume 1 (.task (.ok none)))] ++ prompted 2

/-- The expiry closes the renewed session. -/
theorem closesIdle_fails : ¬ ClosesIdle (run unreached runRenewed) := by
  intro closesIdle
  cases closesIdle 3 (js "slot:a") 1 ⟨_, rfl, rfl, rfl, nofun, rfl⟩

end MmUssd

end ModemStack.Ussd
