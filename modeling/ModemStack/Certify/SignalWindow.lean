import ModemStack.Async.Steps
import ModemStack.Certify.Transform
import ModemStack.Text.DoubleOrder

/-!
The bounded window in which a certification records signals.

Its three subscriptions are awaited together, while signals, the timer and a failure may close it.
-/

namespace ModemStack.Certify

open ModemStack.Async ModemStack.Text

structure SignalWindowBound where
  maxSignals : Double
  windowMs : Nat

structure BusSignal where
  path : JsString
  interface : JsString
  member : JsString
  body : List DecodedValue

/-- The property names of the entries, never their values. -/
def changedNames : Option DecodedValue → List JsString
  | some (.array entries) => entries.filterMap fun
      | .array (.string name :: _) => some name
      | _ => none
  | _ => []

def invalidatedNames : Option DecodedValue → List JsString
  | some (.array names) => names.filterMap fun
      | .string name => some name
      | _ => none
  | _ => []

def toRecord (event : BusSignal) (atMs : Double) : SignalRecord :=
  let isPropsChanged := event.member = js "PropertiesChanged"
  { atMs, path := event.path, interface := event.interface, member := event.member
    changed := if isPropsChanged then changedNames event.body[1]? else []
    invalidated := if isPropsChanged then invalidatedNames event.body[2]? else [] }

namespace SignalWindow

/-- What the window subscribes to. -/
inductive Subject where
  | propertiesChanged
  | interfacesAdded
  | interfacesRemoved
deriving DecidableEq

def subjects : List Subject := [.propertiesChanged, .interfacesAdded, .interfacesRemoved]

inductive SubscribeCall where
  | waiting
  | obtained
  | rejected
deriving DecidableEq

/-- Which callback of the three calls has run: that of `then` or that of `catch`. -/
inductive Reaction where
  | fulfilled
  | failed
deriving DecidableEq

structure Window where
  now : Nat
  calls : Subject → SubscribeCall
  reaction : Option Reaction
  records : List SignalRecord
  closedAt : Option Nat
  subscriptions : List Subject
  /-- How often `unsubscribe` was called. -/
  asked : Subject → Nat
  settledAt : Subject → Option Nat
  /-- The returned promise: when it was settled, and how. -/
  outcome : Option (Nat × Except JsString (List SignalRecord))

def opened : Window :=
  { now := 0, calls := fun _ => .waiting, reaction := none, records := [], closedAt := none,
    subscriptions := [], asked := fun _ => 0, settledAt := fun _ => none, outcome := none }

inductive WindowEvent where
  | obtained (subject : Subject)
  | rejected (subject : Subject)
  /-- The reaction to the three calls runs. -/
  | react
  | signal (event : BusSignal) (atMs : Double)
  | wait (ms : Nat)
  | timeout
  /-- An `unsubscribe` is resolved, or rejected and caught. -/
  | unsubscribed (subject : Subject)
  /-- What `close` awaits is there. -/
  | resume

def Window.isClosed (window : Window) : Bool := window.closedAt.isSome

def unsubscribe (window : Window) (subscriptions : List Subject) : Window :=
  { window with asked := fun subject => window.asked subject + subscriptions.count subject }

def close (window : Window) : Window :=
  if window.isClosed then window
  else unsubscribe { window with closedAt := some window.now } window.subscriptions

def onSignal (bound : SignalWindowBound) (event : BusSignal) (atMs : Double) (window : Window) :
    Window :=
  if window.isClosed then window
  else
    let records := window.records ++ [toRecord event atMs]
    if bound.maxSignals.le (.finite records.length) then close { window with records }
    else { window with records }

def Window.allObtained (window : Window) : Bool :=
  subjects.all fun subject => window.calls subject = .obtained

def Window.someRejected (window : Window) : Bool :=
  subjects.any fun subject => window.calls subject = .rejected

/-- The callback of `then`. -/
def onFulfilled (window : Window) : Window :=
  if window.isClosed then unsubscribe window subjects
  else { window with subscriptions := window.subscriptions ++ subjects }

/-- `Promise.all([...]).then(...).catch(...)` -/
def react (window : Window) : Window :=
  if window.allObtained then onFulfilled { window with reaction := some .fulfilled }
  else close { window with reaction := some .failed }

/-- A subscribe call settles. -/
def settle (window : Window) (subject : Subject) (call : SubscribeCall) : Window :=
  { window with calls := fun other => if other = subject then call else window.calls other }

def step (bound : SignalWindowBound) (window : Window) : WindowEvent → Window
  | .obtained subject => settle window subject .obtained
  | .rejected subject => settle window subject .rejected
  | .react => react window
  | .signal event atMs => onSignal bound event atMs window
  | .wait ms => { window with now := window.now + ms }
  | .timeout => close window
  | .unsubscribed subject =>
    { window with settledAt := fun other =>
        if other = subject then some window.now else window.settledAt other }
  | .resume => { window with outcome := some (window.now, .ok window.records) }

/-! ### What may happen -/

def Window.reacts (window : Window) : Bool :=
  window.reaction.isNone && (window.allObtained || window.someRejected)

/-- Every `unsubscribe` that `close` awaits has settled. -/
def Window.resumes (window : Window) : Bool :=
  window.isClosed && window.outcome.isNone &&
    window.subscriptions.all fun subject => (window.settledAt subject).isSome

/-- Each call settles once; the timer fires at its time, unless it was cleared; no time passes
while a reaction is waiting to run. -/
def allowed (bound : SignalWindowBound) (window : Window) : WindowEvent → Bool
  | .obtained subject | .rejected subject => window.calls subject = .waiting
  | .react => window.reacts
  | .signal _ _ => true
  | .wait ms => !window.reacts && !window.resumes &&
      (window.isClosed || window.now + ms ≤ bound.windowMs)
  | .timeout => !window.isClosed && window.now = bound.windowMs
  | .unsubscribed subject => 0 < window.asked subject && (window.settledAt subject).isNone
  | .resume => window.resumes

def Run (bound : SignalWindowBound) (events : List WindowEvent) : Prop :=
  AllowsEvents (step bound) (fun window event => allowed bound window event = true) opened events

def after (bound : SignalWindowBound) (events : List WindowEvent) : Window :=
  events.foldl (step bound) opened

/-! ### What each step keeps -/

variable {bound : SignalWindowBound} {window : Window}

/-- The bound is reached by `n` records. -/
def Fills (bound : SignalWindowBound) (n : Nat) : Prop := bound.maxSignals.le (.finite n) = true

/-- Every `unsubscribe` that `close` awaits has settled. -/
def AllSettled (window : Window) : Prop :=
  ∀ subject ∈ window.subscriptions, window.settledAt subject ≠ none

/-- The time at which the window was closed, or an awaited `unsubscribe` settled. -/
def Prompt (window : Window) (closed time : Nat) : Prop :=
  time = closed ∨ ∃ subject ∈ window.subscriptions, window.settledAt subject = some time

structure Sound (bound : SignalWindowBound) (window : Window) : Prop where
  fulfilled : window.reaction = some .fulfilled → window.allObtained = true
  failed : window.reaction = some .failed → window.someRejected = true
  asked : ∀ subject, window.asked subject =
    if window.isClosed = true ∧ window.reaction = some .fulfilled then 1 else 0
  subscriptions : window.subscriptions = subjects ∧ window.reaction = some .fulfilled ∨
    window.subscriptions = [] ∧ (window.isClosed = false → window.reaction ≠ some .fulfilled)
  filled : window.records.length ≤ 1 ∨ ¬ Fills bound (window.records.length - 1)
  inTime : window.closedAt = none → window.now ≤ bound.windowMs
  closedInTime : ∀ closed, window.closedAt = some closed → closed ≤ bound.windowMs
  prompt : ∀ closed, window.closedAt = some closed → window.outcome = none →
    AllSettled window → Prompt window closed window.now
  outcome : ∀ time result, window.outcome = some (time, result) → result = .ok window.records ∧
    ∃ closed, window.closedAt = some closed ∧ Prompt window closed time

/-- While the window is open there is room for a record. -/
def Roomy (bound : SignalWindowBound) (window : Window) : Prop :=
  window.isClosed = false → window.records.length = 0 ∨ ¬ Fills bound window.records.length

theorem isClosed_false : window.isClosed = false ↔ window.closedAt = none := by
  rw [Window.isClosed, Option.isSome_eq_false_iff, Option.isNone_iff_eq_none]

theorem close_isClosed (window : Window) : (close window).isClosed = true := by
  unfold close
  split
  · assumption
  · rfl

theorem sound_opened (bound : SignalWindowBound) : Sound bound opened ∧ Roomy bound opened := by
  refine ⟨⟨?_, ?_, ?_, ?_, ?_, ?_, ?_, ?_, ?_⟩, fun _ => .inl rfl⟩
  · rintro ⟨⟩
  · rintro ⟨⟩
  · exact fun _ => rfl
  · exact .inr ⟨rfl, fun _ => nofun⟩
  · exact .inl (Nat.zero_le 1)
  · exact fun _ => Nat.zero_le _
  · rintro _ ⟨⟩
  · rintro _ ⟨⟩
  · rintro _ _ ⟨⟩

theorem count_subjects (subject : Subject) : subjects.count subject = 1 := by
  cases subject <;> rfl

theorem outcome_of_open (sound : Sound bound window) (isOpen : window.closedAt = none) :
    window.outcome = none := by
  cases isOutcome : window.outcome with
  | none => rfl
  | some settled =>
    obtain ⟨-, closed, isClosed, -⟩ := sound.outcome settled.1 settled.2 isOutcome
    cases isOpen.symm.trans isClosed

theorem sound_close (sound : Sound bound window) : Sound bound (close window) := by
  unfold close
  by_cases closed : window.isClosed = true
  · rwa [if_pos closed]
  · rw [if_neg closed]
    rw [Bool.not_eq_true] at closed
    have isOpen := isClosed_false.mp closed
    have noOutcome := outcome_of_open sound isOpen
    constructor
    · exact sound.fulfilled
    · exact sound.failed
    · intro subject
      have none : window.asked subject = 0 := by
        rw [sound.asked, closed]
        rfl
      show window.asked subject + window.subscriptions.count subject = _
      rw [none]
      rcases sound.subscriptions with ⟨pushed, fulfilled⟩ | ⟨empty, unfulfilled⟩
      · rw [pushed, count_subjects, if_pos ⟨rfl, fulfilled⟩]
      · rw [empty, if_neg fun both => unfulfilled closed both.2]
        rfl
    · rcases sound.subscriptions with pushed | ⟨empty, -⟩
      · exact .inl pushed
      · exact .inr ⟨empty, nofun⟩
    · exact sound.filled
    · rintro ⟨⟩
    · rintro _ ⟨⟩
      exact sound.inTime isOpen
    · rintro _ ⟨⟩ _ _
      exact .inl rfl
    · intro time result isOutcome
      cases noOutcome.symm.trans isOutcome

theorem sound_settle {subject : Subject} (call : SubscribeCall) (sound : Sound bound window)
    (waiting : window.calls subject = .waiting) : Sound bound (settle window subject call) where
  fulfilled isFulfilled := by
    have obtained := List.all_eq_true.mp (sound.fulfilled isFulfilled) subject
      (by cases subject <;> decide)
    rw [waiting] at obtained
    exact absurd obtained (by decide)
  failed isFailed := by
    obtain ⟨other, mem, isRejected⟩ := List.any_eq_true.mp (sound.failed isFailed)
    refine List.any_eq_true.mpr ⟨other, mem, ?_⟩
    rw [decide_eq_true_eq] at isRejected ⊢
    have differs : other ≠ subject := by
      rintro rfl
      cases waiting.symm.trans isRejected
    show (if other = subject then call else window.calls other) = .rejected
    rw [if_neg differs]
    exact isRejected
  asked := sound.asked
  subscriptions := sound.subscriptions
  filled := sound.filled
  inTime := sound.inTime
  closedInTime := sound.closedInTime
  prompt := sound.prompt
  outcome := sound.outcome

theorem sound_onFulfilled (sound : Sound bound window) (first : window.reaction = none)
    (obtained : window.allObtained = true) :
    Sound bound (onFulfilled { window with reaction := some .fulfilled }) := by
  have noPush : window.subscriptions = [] := by
    rcases sound.subscriptions with ⟨-, isFulfilled⟩ | ⟨empty, -⟩
    · cases first.symm.trans isFulfilled
    · exact empty
  have unasked (subject : Subject) : window.asked subject = 0 := by
    rw [sound.asked, first, if_neg]
    rintro ⟨-, ⟨⟩⟩
  have isSame : (Window.isClosed { window with reaction := some .fulfilled }) =
      window.isClosed := rfl
  unfold onFulfilled
  rw [isSame]
  by_cases closed : window.isClosed = true
  · rw [if_pos closed]
    constructor
    · exact fun _ => obtained
    · rintro ⟨⟩
    · intro subject
      show window.asked subject + subjects.count subject = _
      rw [unasked, count_subjects, if_pos ⟨closed, rfl⟩]
    · exact .inr ⟨noPush, fun isOpen => absurd (closed.symm.trans isOpen) Bool.noConfusion⟩
    · exact sound.filled
    · exact sound.inTime
    · exact sound.closedInTime
    · exact sound.prompt
    · exact sound.outcome
  · rw [if_neg closed]
    have isOpen := isClosed_false.mp (Bool.not_eq_true _ ▸ closed)
    constructor
    · exact fun _ => obtained
    · rintro ⟨⟩
    · intro subject
      show window.asked subject = _
      rw [unasked, if_neg fun both => closed both.1]
    · refine .inl ⟨?_, rfl⟩
      show window.subscriptions ++ subjects = subjects
      rw [noPush]
      rfl
    · exact sound.filled
    · exact sound.inTime
    · exact sound.closedInTime
    · intro time isClosed
      cases isOpen.symm.trans isClosed
    · intro time result isOutcome
      obtain ⟨-, closedTime, isClosed, -⟩ := sound.outcome time result isOutcome
      cases isOpen.symm.trans isClosed

theorem sound_react (sound : Sound bound window) (reacts : window.reacts = true) :
    Sound bound (react window) := by
  rw [Window.reacts, Bool.and_eq_true, Bool.or_eq_true, Option.isNone_iff_eq_none] at reacts
  obtain ⟨first, settled⟩ := reacts
  unfold react
  by_cases obtained : window.allObtained = true
  · rw [if_pos obtained]
    exact sound_onFulfilled sound first obtained
  · rw [if_neg obtained]
    have rejected : window.someRejected = true := settled.resolve_left obtained
    apply sound_close
    have noPush : window.subscriptions = [] := by
      rcases sound.subscriptions with ⟨-, isFulfilled⟩ | ⟨empty, -⟩
      · cases first.symm.trans isFulfilled
      · exact empty
    constructor
    · rintro ⟨⟩
    · exact fun _ => rejected
    · intro subject
      show window.asked subject = _
      rw [sound.asked, first, if_neg, if_neg]
      · rintro ⟨-, ⟨⟩⟩
      · rintro ⟨-, ⟨⟩⟩
    · exact .inr ⟨noPush, fun _ => nofun⟩
    · exact sound.filled
    · exact sound.inTime
    · exact sound.closedInTime
    · exact sound.prompt
    · exact sound.outcome

theorem sound_onSignal (event : BusSignal) (atMs : Double) (sound : Sound bound window)
    (roomy : Roomy bound window) : Sound bound (onSignal bound event atMs window) ∧
      Roomy bound (onSignal bound event atMs window) := by
  unfold onSignal
  by_cases closed : window.isClosed = true
  · rw [if_pos closed]
    exact ⟨sound, roomy⟩
  · rw [if_neg closed]
    rw [Bool.not_eq_true] at closed
    have noOutcome := outcome_of_open sound (isClosed_false.mp closed)
    have longer : (window.records ++ [toRecord event atMs]).length = window.records.length + 1 :=
      List.length_append
    have kept : Sound bound { window with records := window.records ++ [toRecord event atMs] } :=
      { sound with
        filled := by
          show _ ≤ 1 ∨ _
          rw [longer, Nat.add_sub_cancel]
          rcases roomy closed with none | room
          · exact .inl (by omega)
          · exact .inr room
        outcome := fun time result isOutcome => by cases noOutcome.symm.trans isOutcome }
    dsimp only
    split
    · exact ⟨sound_close kept, fun isOpen =>
        absurd ((close_isClosed _).symm.trans isOpen) Bool.noConfusion⟩
    · next room => exact ⟨kept, fun _ => .inr room⟩

theorem sound_wait {ms : Nat} (sound : Sound bound window)
    (may : allowed bound window (.wait ms) = true) :
    Sound bound { window with now := window.now + ms } := by
  simp only [allowed, Bool.and_eq_true, Bool.or_eq_true, Bool.not_eq_true', decide_eq_true_eq]
    at may
  obtain ⟨⟨-, notResuming⟩, bounded⟩ := may
  refine { sound with
    inTime := fun isOpen => ?_
    prompt := fun closed isClosed noOutcome settled => ?_ }
  · have isOpen' := isClosed_false.mpr isOpen
    exact bounded.resolve_left fun closed => absurd (closed.symm.trans isOpen') Bool.noConfusion
  · have resuming : window.resumes = true := by
      have isClosed' : window.closedAt = some closed := isClosed
      have noOutcome' : window.outcome = none := noOutcome
      rw [Window.resumes, Window.isClosed, isClosed', noOutcome']
      refine List.all_eq_true.mpr fun subject mem => ?_
      exact Option.isSome_iff_ne_none.mpr (settled subject mem)
    exact absurd (resuming.symm.trans notResuming) Bool.noConfusion

theorem sound_unsubscribed {subject : Subject} (sound : Sound bound window)
    (may : allowed bound window (.unsubscribed subject) = true) :
    Sound bound (step bound window (.unsubscribed subject)) := by
  rw [allowed, Bool.and_eq_true, Option.isNone_iff_eq_none] at may
  obtain ⟨-, unsettled⟩ := may
  have kept {other : Subject} (differs : other ≠ subject) :
      (step bound window (.unsubscribed subject)).settledAt other = window.settledAt other :=
    if_neg differs
  have still {closed time : Nat} (prompt : Prompt window closed time) :
      Prompt (step bound window (.unsubscribed subject)) closed time := by
    refine prompt.imp_right ?_
    rintro ⟨other, mem, isTime⟩
    refine ⟨other, mem, (kept ?_).trans isTime⟩
    rintro rfl
    cases unsettled.symm.trans isTime
  refine { sound with
    prompt := fun closed isClosed noOutcome settled => ?_
    outcome := fun time result isOutcome => ?_ }
  · by_cases awaited : subject ∈ window.subscriptions
    · exact .inr ⟨subject, awaited, if_pos rfl⟩
    · refine still (sound.prompt closed isClosed noOutcome fun other mem => ?_)
      rw [← kept (ne_of_mem_of_not_mem mem awaited)]
      exact settled other mem
  · obtain ⟨isRecords, closed, isClosed, prompt⟩ := sound.outcome time result isOutcome
    exact ⟨isRecords, closed, isClosed, still prompt⟩

theorem sound_resume (sound : Sound bound window) (resumes : window.resumes = true) :
    Sound bound (step bound window .resume) := by
  rw [Window.resumes, Bool.and_eq_true, Bool.and_eq_true, Option.isNone_iff_eq_none] at resumes
  obtain ⟨⟨isClosed, noOutcome⟩, settled⟩ := resumes
  obtain ⟨closed, isClosed⟩ := Option.isSome_iff_exists.mp isClosed
  refine { sound with
    prompt := fun _ _ isNone => by cases isNone
    outcome := ?_ }
  rintro _ _ ⟨⟩
  refine ⟨rfl, closed, isClosed, sound.prompt closed isClosed noOutcome fun other mem => ?_⟩
  exact Option.isSome_iff_ne_none.mp (List.all_eq_true.mp settled other mem)

variable {event : WindowEvent}

theorem sound_step (inv : Sound bound window ∧ Roomy bound window)
    (may : allowed bound window event = true) :
    Sound bound (step bound window event) ∧ Roomy bound (step bound window event) := by
  obtain ⟨sound, roomy⟩ := inv
  have closes {next : Window} : Roomy bound (close next) := fun isOpen =>
    absurd ((close_isClosed next).symm.trans isOpen) Bool.noConfusion
  cases event with
  | obtained | rejected => exact ⟨sound_settle _ sound (of_decide_eq_true may), roomy⟩
  | react =>
    refine ⟨sound_react sound may, ?_⟩
    show Roomy bound (react window)
    unfold react onFulfilled
    split
    · split
      · exact roomy
      · exact roomy
    · exact closes
  | signal event atMs => exact sound_onSignal event atMs sound roomy
  | wait => exact ⟨sound_wait sound may, roomy⟩
  | timeout => exact ⟨sound_close sound, closes⟩
  | unsubscribed => exact ⟨sound_unsubscribed sound may, roomy⟩
  | resume => exact ⟨sound_resume sound may, roomy⟩

theorem sound_after {events : List WindowEvent} (run : Run bound events) :
    Sound bound (after bound events) ∧ Roomy bound (after bound events) := by
  have keeps (window : Window) (event : WindowEvent)
      (inv : Sound bound window ∧ Roomy bound window)
      (may : allowed bound window event = true) :
      Sound bound (step bound window event) ∧ Roomy bound (step bound window event) :=
    sound_step inv may
  exact foldl_invariant keeps (sound_opened bound) run

/-! ### What a closed window keeps -/

theorem step_closed (closed : window.isClosed = true) : (step bound window event).isClosed = true ∧
      (step bound window event).records = window.records := by
  have closes {next : Window} (isClosed : next.isClosed = true) : close next = next :=
    if_pos isClosed
  cases event with
  | react =>
    show (react window).isClosed = true ∧ (react window).records = window.records
    unfold react
    split
    · unfold onFulfilled
      split
      · exact ⟨closed, rfl⟩
      · exact ⟨closed, rfl⟩
    · rw [closes (by exact closed)]
      exact ⟨closed, rfl⟩
  | signal event atMs =>
    have ignored : onSignal bound event atMs window = window := if_pos closed
    show (onSignal bound event atMs window).isClosed = true ∧ _
    rw [step, ignored]
    exact ⟨closed, rfl⟩
  | timeout =>
    rw [step, closes closed]
    exact ⟨closed, rfl⟩
  | _ => exact ⟨closed, rfl⟩

/-- The promise is settled once. -/
theorem step_outcome {settled : Nat × Except JsString (List SignalRecord)}
    (may : allowed bound window event = true) (isSettled : window.outcome = some settled) :
    (step bound window event).outcome = some settled := by
  have closes (next : Window) : (close next).outcome = next.outcome := by
    unfold close
    split <;> rfl
  cases event with
  | react =>
    show (react window).outcome = _
    unfold react onFulfilled
    split
    · split <;> exact isSettled
    · rw [closes]
      exact isSettled
  | signal event atMs =>
    show (onSignal bound event atMs window).outcome = _
    unfold onSignal
    split
    · exact isSettled
    · dsimp only
      split
      · rw [closes]
        exact isSettled
      · exact isSettled
  | timeout =>
    rw [step, closes]
    exact isSettled
  | resume =>
    rw [allowed, Window.resumes, isSettled] at may
    simp at may
  | _ => exact isSettled

/-! ### Whole runs -/

/-- What is answered after a run, and what is left behind. -/
structure Answers (bound : SignalWindowBound) (events : List WindowEvent) : Prop where
  /-- The promise is never rejected; it is resolved with the records, when the window was closed or
  an `unsubscribe` of the close settled. -/
  resolved : ∀ time result, (after bound events).outcome = some (time, result) →
    result = .ok (after bound events).records ∧
      ∃ closed, (after bound events).closedAt = some closed ∧
        Prompt (after bound events) closed time
  once : ∀ before, before <+: events → ∀ settled, (after bound before).outcome = some settled →
    (after bound events).outcome = some settled
  bounded : ∀ n : Nat, 1 ≤ n → bound.maxSignals = .finite n →
    (after bound events).records.length ≤ n
  /-- What is recorded is recorded before the close. -/
  frozen : ∀ before, before <+: events → (after bound before).isClosed = true →
    (after bound events).records = (after bound before).records
  inTime : ((after bound events).closedAt = none → (after bound events).now ≤ bound.windowMs) ∧
    ∀ closed, (after bound events).closedAt = some closed → closed ≤ bound.windowMs
  /-- Once the window is closed only an `unsubscribe` that has not settled holds the answer up. -/
  answered : (after bound events).isClosed = true → (after bound events).outcome = none →
    (after bound events).resumes = true ∨ ¬ AllSettled (after bound events)
  asked : ∀ subject, (after bound events).asked subject = 0 ∨
    (after bound events).asked subject = 1 ∧ (after bound events).isClosed = true ∧
      (after bound events).calls subject = .obtained
  tornDown : (after bound events).isClosed = true → (after bound events).allObtained = true →
    (after bound events).reacts = false → ∀ subject, (after bound events).asked subject = 1

theorem records_of_closed {before rest : List WindowEvent}
    (closed : (after bound before).isClosed = true) :
    (after bound (before ++ rest)).records = (after bound before).records := by
  have keeps (window : Window) (event : WindowEvent)
      (inv : window.isClosed = true ∧ window.records = (after bound before).records) :
      (step bound window event).isClosed = true ∧
        (step bound window event).records = (after bound before).records :=
    ⟨(step_closed inv.1).1, (step_closed inv.1).2.trans inv.2⟩
  rw [after, List.foldl_append]
  exact (foldl_keeps keeps ⟨closed, rfl⟩).2

theorem outcome_of_settled {before rest : List WindowEvent}
    {settled : Nat × Except JsString (List SignalRecord)} (run : Run bound (before ++ rest))
    (isSettled : (after bound before).outcome = some settled) :
    (after bound (before ++ rest)).outcome = some settled := by
  have keeps (window : Window) (event : WindowEvent) (inv : window.outcome = some settled)
      (may : allowed bound window event = true) :
      (step bound window event).outcome = some settled :=
    step_outcome may inv
  have start : (before.foldl (step bound) opened).outcome = some settled := isSettled
  rw [after, List.foldl_append]
  exact foldl_invariant keeps start run.of_append

theorem length_le_of_whole {length n : Nat} (whole : bound.maxSignals = .finite n) (one : 1 ≤ n)
    (filled : length ≤ 1 ∨ ¬ Fills bound (length - 1)) : length ≤ n := by
  rcases filled with few | room
  · omega
  · by_contra more
    apply room
    have most : (n : Rat) ≤ ((length - 1 : Nat) : Rat) := by
      exact_mod_cast (show n ≤ length - 1 by omega)
    rw [Fills, whole]
    exact Double.le_iff.mpr ⟨_, _, rfl, rfl, Prod.Lex.toLex_le_toLex.mpr (.inr ⟨rfl, most⟩)⟩

theorem calls_of_allObtained (obtained : window.allObtained = true) (subject : Subject) :
    window.calls subject = .obtained :=
  of_decide_eq_true (List.all_eq_true.mp obtained subject (by cases subject <;> decide))

theorem not_someRejected (obtained : window.allObtained = true) : window.someRejected = false := by
  rw [Window.someRejected, List.any_eq_false]
  intro subject _
  rw [calls_of_allObtained obtained]
  decide

/-- Every run of a window is bounded, and what it has subscribed to is given back. -/
theorem window_answers (bound : SignalWindowBound) (events : List WindowEvent)
    (run : Run bound events) : Answers bound events := by
  obtain ⟨sound, -⟩ := sound_after run
  constructor
  · exact sound.outcome
  · rintro before ⟨rest, rfl⟩ settled isSettled
    exact outcome_of_settled run isSettled
  · intro n one whole
    exact length_le_of_whole whole one sound.filled
  · rintro before ⟨rest, rfl⟩ closed
    exact records_of_closed closed
  · exact ⟨sound.inTime, sound.closedInTime⟩
  · intro closed noOutcome
    by_cases settled : AllSettled (after bound events)
    · left
      rw [Window.resumes, closed, noOutcome]
      refine List.all_eq_true.mpr fun subject mem => ?_
      exact Option.isSome_iff_ne_none.mpr (settled subject mem)
    · exact .inr settled
  · intro subject
    rw [sound.asked]
    by_cases given : (after bound events).isClosed = true ∧
        (after bound events).reaction = some .fulfilled
    · rw [if_pos given]
      exact .inr ⟨rfl, given.1, calls_of_allObtained (sound.fulfilled given.2) subject⟩
    · rw [if_neg given]
      exact .inl rfl
  · intro closed obtained quiet subject
    rw [sound.asked, if_pos]
    refine ⟨closed, ?_⟩
    cases isReaction : (after bound events).reaction with
    | none =>
      rw [Window.reacts, isReaction, obtained] at quiet
      cases quiet
    | some reaction =>
      cases reaction with
      | fulfilled => rfl
      | failed =>
        have rejected := sound.failed isReaction
        rw [not_someRejected obtained] at rejected
        cases rejected

def benchWindow : SignalWindowBound := ⟨.finite 32, 30⟩

/-- The window's time is over; its subscriptions are given back later. -/
def lateRun : List WindowEvent :=
  [.obtained .propertiesChanged, .obtained .interfacesAdded, .obtained .interfacesRemoved, .react,
    .wait 30, .timeout, .wait 20, .unsubscribed .propertiesChanged,
    .unsubscribed .interfacesAdded, .unsubscribed .interfacesRemoved, .resume]

/-- One subscription is obtained, the others fail. -/
def failedRun : List WindowEvent :=
  [.obtained .propertiesChanged, .rejected .interfacesAdded, .rejected .interfacesRemoved, .react,
    .resume]

def bootSignal : BusSignal := ⟨js "/org/freedesktop/ModemManager1", [], js "InterfacesAdded", []⟩

theorem window_answers_late : Answers benchWindow lateRun :=
  window_answers benchWindow lateRun
    ⟨rfl, rfl, rfl, rfl, rfl, rfl, rfl, rfl, rfl, rfl, rfl, trivial⟩

/-- The answer waits for what gives the subscriptions back, however late that settles; a bound of
no signal lets one through; and what was obtained beside a failure is kept. -/
theorem window_unbounded :
    (Run benchWindow lateRun ∧
      AllSettled (after benchWindow lateRun) ∧
      ((after benchWindow lateRun).outcome.map Prod.fst) = some 50) ∧
    (Run ⟨.finite 0, 3000⟩ [.signal bootSignal (.finite 0)] ∧
      (after ⟨.finite 0, 3000⟩ [.signal bootSignal (.finite 0)]).records.length = 1) ∧
    Run benchWindow failedRun ∧
      (after benchWindow failedRun).outcome = some (0, .ok []) ∧
      (after benchWindow failedRun).calls .propertiesChanged = .obtained ∧
      (after benchWindow failedRun).asked .propertiesChanged = 0 := by
  refine ⟨⟨?_, ?_, rfl⟩, ⟨⟨rfl, trivial⟩, rfl⟩, ?_, rfl, rfl, rfl⟩
  · exact ⟨rfl, rfl, rfl, rfl, rfl, rfl, rfl, rfl, rfl, rfl, rfl, trivial⟩
  · intro subject _
    cases subject <;> nofun
  · exact ⟨rfl, rfl, rfl, rfl, rfl, trivial⟩

end SignalWindow

end ModemStack.Certify
