import ModemStack.Async.Steps
import ModemStack.Text.Number

/-!
What the GNSS display shows: an acquisition that is bounded, and a fix that expires.

Both bounds are checked by some events only. `bounded_iff` says which events keep them.
-/

namespace ModemStack.Location

open ModemStack.Async ModemStack.Text

structure GnssFix where
  latitude : Double
  longitude : Double
  altitude : Option Double
  utcTime : Option JsString
  observedAt : Int
deriving DecidableEq

inductive FixRead where
  | fix (fix : GnssFix)
  | noFix (reason : JsString)
  | disabled (reason : JsString)
  | unsupported (reason : JsString)
  | error (reason : JsString)
deriving DecidableEq

structure GnssFixStateConfig where
  acquireTimeoutMs : Int
  fixTtlMs : Int

def defaultFixStateConfig : GnssFixStateConfig := ⟨120000, 30000⟩

inductive NoFixReason where
  | acquireTimeout
  | reportedNoFix
  | fixExpired
deriving DecidableEq

inductive GnssFixState where
  | off
  | acquiring (since : Int)
  | noFix (since : Int) (reason : NoFixReason)
  | fix (fix : GnssFix)
  | unavailable (reason : JsString)
deriving DecidableEq

inductive GnssFixEvent where
  | gnssEnabled (now : Int)
  | gnssDisabled
  | read (now : Int) (read : FixRead)
  | tick (now : Int)

def renderableFix : GnssFixState → Option GnssFix
  | .fix fix => some fix
  | _ => none

def expireIfDue (config : GnssFixStateConfig) (state : GnssFixState) (now : Int) : GnssFixState :=
  match state with
  | .acquiring since =>
    if config.acquireTimeoutMs ≤ now - since then .noFix now .acquireTimeout else state
  | .fix fix => if config.fixTtlMs ≤ now - fix.observedAt then .noFix now .fixExpired else state
  | _ => state

def applyRead (config : GnssFixStateConfig) (state : GnssFixState) (now : Int) :
    FixRead → GnssFixState
  | .fix fix => .fix fix
  | .noFix _ =>
    match state with
    | .acquiring _ => expireIfDue config state now
    | _ => .noFix now .reportedNoFix
  | .disabled _ => .off
  | .unsupported reason => .unavailable reason
  | .error reason => .unavailable reason

def advanceGnssFixState (config : GnssFixStateConfig) (state : GnssFixState) :
    GnssFixEvent → GnssFixState
  | .gnssEnabled now =>
    match state with
    | .fix _ => state
    | _ => .acquiring now
  | .gnssDisabled => .off
  | .read now read => applyRead config state now read
  | .tick now => expireIfDue config state now

/-- The event carries a position. -/
def GnssFixEvent.position : GnssFixEvent → Option GnssFix
  | .read _ (.fix fix) => some fix
  | _ => none

variable {config : GnssFixStateConfig} {state : GnssFixState}

theorem renderableFix_expireIfDue {now : Int} (dark : renderableFix state = none) :
    renderableFix (expireIfDue config state now) = none := by
  unfold expireIfDue
  split
  · split <;> rfl
  · cases dark
  · exact dark

/-- Only a read that carries a position brings one to the display. -/
theorem renderableFix_advance {event : GnssFixEvent} (dark : renderableFix state = none)
    (noPosition : event.position = none) :
    renderableFix (advanceGnssFixState config state event) = none := by
  cases event with
  | gnssEnabled =>
    simp only [advanceGnssFixState]
    split
    · exact dark
    · rfl
  | gnssDisabled => rfl
  | read now read =>
    cases read with
    | fix => cases noPosition
    | noFix =>
      simp only [advanceGnssFixState, applyRead]
      split
      · exact renderableFix_expireIfDue dark
      · rfl
    | disabled => rfl
    | unsupported => rfl
    | error => rfl
  | tick => exact renderableFix_expireIfDue dark

/-! ### Runs -/

def GnssFixEvent.time : GnssFixEvent → Option Int
  | .gnssEnabled now | .read now _ | .tick now => some now
  | .gnssDisabled => none

/-- The display beside what its events said: the position that still stands, the first enabling of
the acquisition, and the time of the last event. -/
structure Display where
  state : GnssFixState
  reported : Option GnssFix
  began : Int
  now : Option Int

namespace Display

def start : Display := ⟨.off, none, 0, none⟩

/-- A read of any other outcome withdraws the position, as switching GNSS off does. -/
def reportedAfter (reported : Option GnssFix) : GnssFixEvent → Option GnssFix
  | .read _ (.fix fix) => some fix
  | .read _ _ | .gnssDisabled => none
  | .gnssEnabled _ | .tick _ => reported

/-- An enabling begins an acquisition unless one is under way. -/
def beganAfter (began : Int) (state : GnssFixState) : GnssFixEvent → Int
  | .gnssEnabled now =>
    match state with
    | .acquiring _ => began
    | _ => now
  | _ => began

def step (config : GnssFixStateConfig) (display : Display) (event : GnssFixEvent) : Display :=
  { state := advanceGnssFixState config display.state event
    reported := reportedAfter display.reported event
    began := beganAfter display.began display.state event
    now := event.time }

def run (config : GnssFixStateConfig) (events : List GnssFixEvent) : Display :=
  events.foldl (step config) start

/-- The fix shown is the position that stands, and young; the wait is not over its limit. -/
structure Bounded (config : GnssFixStateConfig) (display : Display) : Prop where
  reported : ∀ fix, renderableFix display.state = some fix → display.reported = some fix
  young : ∀ fix, renderableFix display.state = some fix → ∀ now, display.now = some now →
    now - fix.observedAt < config.fixTtlMs
  waiting : ∀ since, display.state = .acquiring since → ∀ now, display.now = some now →
    now - display.began < config.acquireTimeoutMs

/-- A fix that is read or kept over an enabling is young; a first enabling has time to wait; and
while the clock of a later enabling runs, the first one's has not run out. -/
def InTime (config : GnssFixStateConfig) (display : Display) : GnssFixEvent → Prop
  | .gnssEnabled now =>
    match display.state with
    | .fix fix => now - fix.observedAt < config.fixTtlMs
    | .acquiring _ => now - display.began < config.acquireTimeoutMs
    | _ => 0 < config.acquireTimeoutMs
  | .read now (.fix fix) => now - fix.observedAt < config.fixTtlMs
  | .read now (.noFix _) | .tick now =>
    match display.state with
    | .acquiring since => now - since < config.acquireTimeoutMs →
        now - display.began < config.acquireTimeoutMs
    | _ => True
  | _ => True

variable {config : GnssFixStateConfig} {display : Display}

/-- A display that shows no fix and does not wait keeps both bounds. -/
theorem bounded_idle (dark : renderableFix display.state = none)
    (notWaiting : ∀ since, display.state ≠ .acquiring since) : Bounded config display := by
  constructor
  · intro fix shown
    rw [dark] at shown
    cases shown
  · intro fix shown
    rw [dark] at shown
    cases shown
  · intro since acquiring
    exact absurd acquiring (notWaiting since)

variable {reported : Option GnssFix}

theorem bounded_fix {fix : GnssFix} {began now : Int} (stands : reported = some fix) :
    Bounded config ⟨.fix fix, reported, began, some now⟩ ↔
      now - fix.observedAt < config.fixTtlMs := by
  constructor
  · intro bounded
    exact bounded.young fix rfl now rfl
  · intro young
    refine ⟨fun other shown => ?_, fun other shown at' isNow => ?_, nofun⟩
    · cases shown
      exact stands
    · cases shown
      cases isNow
      exact young

theorem bounded_acquiring {since began now : Int} :
    Bounded config ⟨.acquiring since, reported, began, some now⟩ ↔
      now - began < config.acquireTimeoutMs := by
  constructor
  · intro bounded
    exact bounded.waiting since rfl now rfl
  · intro waiting
    refine ⟨nofun, nofun, fun other acquiring at' isNow => ?_⟩
    cases isNow
    exact waiting

/-- What becomes of an acquisition when its clock is read. -/
theorem bounded_expire {since began now : Int} :
    Bounded config ⟨expireIfDue config (.acquiring since) now, reported, began, some now⟩ ↔
      (now - since < config.acquireTimeoutMs → now - began < config.acquireTimeoutMs) := by
  unfold expireIfDue
  by_cases due : config.acquireTimeoutMs ≤ now - since
  · simp only [due, if_true]
    exact iff_of_true (bounded_idle rfl nofun) fun early => absurd due (Int.not_le.mpr early)
  · simp only [due, if_false]
    rw [bounded_acquiring]
    exact (imp_iff_right (Int.not_le.mp due)).symm

theorem bounded_step {event : GnssFixEvent} (bounded : Bounded config display) :
    Bounded config (step config display event) ↔ InTime config display event := by
  obtain ⟨state, reported, began, before⟩ := display
  cases event with
  | gnssEnabled =>
    cases state with
    | fix fix => exact bounded_fix (bounded.reported fix rfl)
    | acquiring => exact bounded_acquiring
    | off | noFix | unavailable =>
      refine bounded_acquiring.trans ?_
      simp only [beganAfter, InTime, Int.sub_self]
  | gnssDisabled => exact iff_of_true (bounded_idle rfl nofun) trivial
  | read now read =>
    cases read with
    | fix => exact bounded_fix rfl
    | noFix =>
      cases state with
      | acquiring => exact bounded_expire
      | off | noFix | fix | unavailable => exact iff_of_true (bounded_idle rfl nofun) trivial
    | disabled | unsupported | error => exact iff_of_true (bounded_idle rfl nofun) trivial
  | tick now =>
    cases state with
    | acquiring => exact bounded_expire
    | fix fix =>
      refine iff_of_true ?_ trivial
      simp only [step, advanceGnssFixState, expireIfDue]
      by_cases due : config.fixTtlMs ≤ now - fix.observedAt
      · rw [if_pos due]
        exact bounded_idle rfl nofun
      · rw [if_neg due]
        exact (bounded_fix (bounded.reported fix rfl)).mpr (Int.not_le.mp due)
    | off | noFix | unavailable => exact iff_of_true (bounded_idle rfl nofun) trivial

/-- Both bounds hold after every event of a run exactly if each event comes in time. -/
theorem bounded_iff (config : GnssFixStateConfig) (events : List GnssFixEvent) :
    (∀ before, before <+: events → Bounded config (run config before)) ↔
      AllowsEvents (step config) (InTime config) start events :=
  always_iff (fun _ _ bounded => bounded_step bounded) (bounded_idle rfl nofun)

/-- An enabling repeated each minute keeps the wait going, and a fix observed an hour ago is
shown. -/
theorem bounded_fails :
    ¬ Bounded defaultFixStateConfig
      (run defaultFixStateConfig [.gnssEnabled 0, .gnssEnabled 60000, .gnssEnabled 120000]) ∧
    ¬ Bounded defaultFixStateConfig (run defaultFixStateConfig
      [.gnssEnabled 0, .read 3600000 (.fix ⟨.finite 0, .finite 0, none, none, 0⟩)]) := by
  constructor
  · intro bounded
    exact absurd (bounded.waiting 120000 rfl 120000 rfl) (by decide)
  · intro bounded
    exact absurd (bounded.young _ rfl 3600000 rfl) (by decide)

end Display

end ModemStack.Location
