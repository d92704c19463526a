import ModemStack.Backend.MmLocation

/-!
The location surface of the ModemManager provider, for one modem.

`enable`, `disable` and `readFix` each bring their result to the display state when it comes, and a
read does not go through the queue of the modem. A position that was read before the receiver was
switched off is brought to the display all the same.
-/

namespace ModemStack.Providers

open ModemStack.Async ModemStack.Async.Program ModemStack.Backend
open ModemStack.Location ModemStack.Text

/-- The clock and the display state; and of what has been answered so far, how many switches were
applied, whether the last of them that counts was a `disable`, and where the first `enable` after it
stands. -/
structure LocationShared where
  clock : Int
  state : Option GnssFixState
  switches : Nat
  off : Bool
  enabledAt : Option Nat

instance : HasClock LocationShared := ⟨LocationShared.clock⟩

/-- What is done at the surface, and that time goes on. -/
inductive LocationUse where
  | enable (sources : List JsString)
  | disable
  | readFix
  | tick
  | clock (now : Int)

inductive LocationResult where
  | toggle (result : LocationToggleResult)
  | read (read : FixRead)
  | state (state : GnssFixState)
  | ticked

abbrev LocationLoop (ρ : Type) : Type :=
  EventLoop LocationShared LocationUse LocationCall (LocationCall.Answer ρ) Failure LocationResult

abbrev LocationTurn (ρ : Type) : Type :=
  Turn LocationUse LocationCall (LocationCall.Answer ρ) Failure

namespace LocationShared

def new : LocationShared := ⟨0, none, 0, false, none⟩

/-- `location.state` -/
def shown (s : LocationShared) : GnssFixState := s.state.getD .off

def enabled (s : LocationShared) : LocationShared :=
  { s with switches := s.switches + 1, enabledAt := s.enabledAt.or (some s.switches) }

def disabled (s : LocationShared) : LocationShared :=
  { s with switches := s.switches + 1, off := true, enabledAt := none }

/-- An `enable` after the last `disable` was applied within the first `issued` switches. -/
def mayShow (s : LocationShared) (issued : Nat) : Bool :=
  s.enabledAt.any fun enabled => enabled < issued

/-- A position read after the receiver was switched on again ends the darkness. -/
def returned (s : LocationShared) (issued : Nat) (read : FixRead) : LocationShared :=
  match read with
  | .fix _ => { s with off := s.off && !s.mayShow issued }
  | _ => s

end LocationShared

namespace ModemManagerModuleOperations

variable {ρ : Type} (self : MmLocation ρ)

/-- Await a read of the adapter that was issued after `issued` switches. -/
def returning (issued : Nat) (read : LocationTask LocationShared ρ FixRead) :
    LocationTask LocationShared ρ FixRead :=
  read.attempt.bind fun outcome => .await (.returned issued outcome) fun _ => ofExcept outcome

def modemPath : LocationTask LocationShared ρ (Option JsString) :=
  (perform LocationCall.readSnapshot).call .settled

def setLocationState (event : GnssFixEvent) : LocationTask LocationShared ρ GnssFixState := do
  let next := advanceGnssFixState defaultFixStateConfig (← get).shown event
  modify fun s => { s with state := some next }
  pure next

def unsupportedToggle : LocationToggleResult := ⟨.unsupported, js "modem-not-found", []⟩

def enable (sources : List JsString) : LocationTask LocationShared ρ LocationResult := do
  match ← modemPath with
  | none => pure (.toggle unsupportedToggle)
  | some path =>
    let result ← (self.enableGnss path sources).call .settled
    if result.outcome = .applied then
      let _ ← setLocationState (.gnssEnabled (← epochMillisNow))
      modify LocationShared.enabled
      pure (.toggle result)
    else pure (.toggle result)

def disable : LocationTask LocationShared ρ LocationResult := do
  match ← modemPath with
  | none => pure (.toggle unsupportedToggle)
  | some path =>
    let result ← (self.disableGnss path).call .settled
    if result.outcome = .applied then
      let _ ← setLocationState .gnssDisabled
      modify LocationShared.disabled
      pure (.toggle result)
    else pure (.toggle result)

def readFix : LocationTask LocationShared ρ LocationResult := do
  let issued := (← get).switches
  match ← modemPath with
  | none => pure (.read (.unsupported (js "modem-not-found")))
  | some path =>
    let read ← returning issued (self.readFix path)
    let _ ← setLocationState (.read (← epochMillisNow) read)
    modify fun s => s.returned issued read
    pure (.read read)

def tick : LocationTask LocationShared ρ LocationResult := do
  let next ← setLocationState (.tick (← epochMillisNow))
  pure (.state next)

def body (_ : Nat) : LocationUse → LocationTask LocationShared ρ LocationResult
  | .enable sources => enable self sources
  | .disable => disable self
  | .readFix => readFix self
  | .tick => tick
  | .clock now => do
      modify fun s => { s with clock := now }
      pure .ticked

/-- What any calls and answers lead to from the start. -/
def run (turns : List (LocationTurn ρ)) : LocationLoop ρ :=
  EventLoop.run (body self) ⟨.new, []⟩ turns

/-! ### The property -/

/-- After a `disable` was applied no position is shown. -/
def Dark (s : LocationShared) : Prop := s.off = true → renderableFix s.shown = none

instance (s : LocationShared) : Decidable (Dark s) :=
  inferInstanceAs (Decidable (s.off = true → renderableFix s.shown = none))

/-- A position that comes back while the display has to be dark is from a read that was issued after
a later `enable`. -/
def Timely (loop : LocationLoop ρ) : LocationTurn ρ → Prop
  | .start _ => True
  | .resume task _ =>
    match loop.pending task with
    | some (.returned issued (.ok (.fix _))) =>
      loop.shared.off = true → loop.shared.mayShow issued = true
    | _ => True

instance (loop : LocationLoop ρ) (turn : LocationTurn ρ) : Decidable (Timely loop turn) := by
  unfold Timely
  cases turn with
  | start use => exact .isTrue trivial
  | resume task answer => dsimp only; split <;> infer_instance

/-- What `Timely` asks of an answer. -/
def TimelyAnswer (s : LocationShared) (op : LocationCall)
    (_ : Except Failure (op.Answer ρ)) : Prop :=
  ∀ issued fix, op = .returned issued (.ok (.fix fix)) → s.off = true → s.mayShow issued = true

section Keeps

variable {self : MmLocation ρ} {s begun : LocationShared}

theorem quiet_callMethod (op : LocationCall) :
    (MmLocation.callMethod op : LocationTask LocationShared ρ _).Quiet := does_settle trivial

variable (modem : JsString)

theorem quiet_readLocationProps :
    (MmLocation.readLocationProps modem : LocationTask LocationShared ρ _).Quiet := by
  refine (quiet_callMethod _).bind fun tree => ?_
  cases tree <;> trivial

theorem quiet_setup (mask : Nat) (appliedReason : JsString) :
    (MmLocation.setup modem mask appliedReason : LocationTask LocationShared ρ _).Quiet := by
  refine (quiet_callMethod _).bind fun reply => ?_
  cases reply <;> trivial

theorem quiet_epochMillisNow : (epochMillisNow : LocationTask LocationShared ρ Int).Quiet := by
  refine does_get.bind fun s => ?_
  dsimp only
  split <;> trivial

theorem quiet_enableGnss (sources : List JsString) :
    (self.enableGnss modem sources : LocationTask LocationShared ρ _).Quiet := by
  refine (quiet_callMethod _).bind fun _ => (quiet_readLocationProps modem).bind fun props => ?_
  cases props with
  | none => trivial
  | some =>
    simp only
    split
    · trivial
    · split
      · trivial
      · exact quiet_setup _ _ _

theorem quiet_disableGnss : (self.disableGnss modem : LocationTask LocationShared ρ _).Quiet := by
  refine (quiet_callMethod _).bind fun _ => (quiet_readLocationProps modem).bind fun props => ?_
  cases props with
  | none => trivial
  | some => exact quiet_setup _ _ _

theorem quiet_readFix : (self.readFix modem : LocationTask LocationShared ρ _).Quiet := by
  refine (quiet_readLocationProps modem).bind fun props => ?_
  cases props with
  | none => trivial
  | some =>
    simp only
    split
    · trivial
    · split
      · trivial
      · refine (quiet_callMethod _).bind fun reply => ?_
        cases reply with
        | error => trivial
        | ok =>
          refine quiet_epochMillisNow.bind fun now => ?_
          split <;> trivial

theorem quiet_modemPath : (modemPath : LocationTask LocationShared ρ _).Quiet :=
  Does.call (does_perform trivial) trivial

theorem meets_epochMillisNow {f : Int → LocationTask LocationShared ρ LocationResult} (dark : Dark s)
    (after : ∀ now, (f now).Meets Dark (.ofFair TimelyAnswer) (fun _ _ s => Dark s) begun s) :
    (epochMillisNow >>= f).Meets Dark (.ofFair TimelyAnswer) (fun _ _ s => Dark s) begun s := by
  rw [meets_monad_bind, epochMillisNow, meets_monad_bind, meets_get, onOutcome_ok]
  dsimp only
  split
  · exact after _
  · exact dark

/-- An event without a position leaves the display dark. -/
theorem dark_advance {event : GnssFixEvent} (dark : Dark s) (noPosition : event.position = none) :
    Dark { s with state := some (advanceGnssFixState defaultFixStateConfig s.shown event) } :=
  fun off => renderableFix_advance (dark off) noPosition

theorem dark_enable (sources : List JsString) (dark : Dark s) :
    (enable self sources).Meets Dark (.ofFair TimelyAnswer) (fun _ _ s => Dark s) begun s := by
  refine quiet_modemPath.meets_bind dark fun path begun s dark => ?_
  cases path with
  | none => exact dark
  | some path =>
    refine ((quiet_enableGnss path sources).call trivial).meets_bind dark fun result begun s dark => ?_
    split
    · refine quiet_epochMillisNow.meets_bind dark fun now begun s dark => ?_
      exact dark_advance dark rfl
    · exact dark

theorem dark_disable (dark : Dark s) :
    (disable self).Meets Dark (.ofFair TimelyAnswer) (fun _ _ s => Dark s) begun s := by
  refine quiet_modemPath.meets_bind dark fun path begun s dark => ?_
  cases path with
  | none => exact dark
  | some path =>
    refine ((quiet_disableGnss path).call trivial).meets_bind dark fun result begun s dark => ?_
    split
    · exact fun _ => rfl
    · exact dark

/-- A read brings its result to the display: dark it stays, or it may be lit. -/
theorem dark_returned {issued : Nat} {read : FixRead} (now : Int) (dark : Dark s)
    (timely : ∀ fix, read = .fix fix → s.off = true → s.mayShow issued = true) :
    Dark (LocationShared.returned
      { s with state := some (advanceGnssFixState defaultFixStateConfig s.shown (.read now read)) }
      issued read) := by
  cases read with
  | fix fix =>
    intro off
    rw [LocationShared.returned, Bool.and_eq_true, Bool.not_eq_true'] at off
    have may : s.mayShow issued = true := timely fix rfl off.1
    cases off.2.symm.trans may
  | noFix | disabled | unsupported | error => exact dark_advance dark rfl

theorem dark_readFix (dark : Dark s) :
    (readFix self).Meets Dark (.ofFair TimelyAnswer) (fun _ _ s => Dark s) begun s := by
  refine does_get.meets_bind dark fun issuedIn begun s dark => ?_
  refine quiet_modemPath.meets_bind dark fun path begun s dark => ?_
  cases path with
  | none => exact dark
  | some path =>
    rw [meets_monad_bind, returning, meets_bind]
    refine (quiet_readFix path).attempt.meets_quiet dark fun outcome begun s dark => ?_
    cases outcome with
    | error => exact dark
    | ok outcome =>
      -- From here to the end it is one turn: the display is as it was when the read came back.
      refine ⟨dark, trivial, fun now _ dark => ⟨trivial, fun answer timely => ?_⟩⟩
      cases outcome with
      | error => exact dark
      | ok =>
        refine meets_epochMillisNow dark fun at' => ?_
        exact dark_returned at' dark fun fix same => timely issuedIn.switches fix (by rw [same])

theorem dark_tick (dark : Dark s) :
    (tick : LocationTask LocationShared ρ _).Meets Dark (.ofFair TimelyAnswer)
      (fun _ _ s => Dark s) begun s := by
  refine quiet_epochMillisNow.meets_bind dark fun now begun s dark => ?_
  exact dark_advance dark rfl

end Keeps

/-- Whatever the calls, the answers and their order, each position that comes back in time: after an
applied `disable` no position is shown until a read returns one that was issued after a later
`enable`. -/
theorem dark_run (self : MmLocation ρ) (turns : List (LocationTurn ρ))
    (timely : EventLoop.Allows (body self) Timely ⟨.new, []⟩ turns) :
    Dark (run self turns).shared := by
  refine EventLoop.run_ofFair TimelyAnswer (fun i use s dark => ?_) nofun ?_
  · cases use with
    | enable sources => exact dark_enable sources dark
    | disable => exact dark_disable dark
    | readFix => exact dark_readFix dark
    | tick => exact dark_tick dark
    | clock now => exact dark
  · refine timely.mono fun loop turn timely task answer same op pending issued fix isOp off => ?_
    subst same isOp
    simp only [Timely, pending] at timely
    exact timely off

/-! ### A read in flight -/

/-- An adapter whose replies hold the fix itself. -/
def adapter : MmLocation (Option GnssFix) := ⟨id, fun reply _ => reply⟩

def position : GnssFix := ⟨.finite 52, .finite 21, none, none, 0⟩

/-- One modem, with its GPS receiver on. -/
def modemTree : DecodedManagedObjects :=
  [(js "/Modem/0", [(locationIface,
    [(js "Capabilities", ⟨js "u", .number (.integer 2)⟩),
      (js "Enabled", ⟨js "u", .number (.integer 2)⟩)])])]

def answers : (op : LocationCall) → Except Failure (op.Answer (Option GnssFix))
  | .readSnapshot => .ok (some (js "/Modem/0"))
  | .getManagedObjects => .ok modemTree
  | .getLocation _ => .ok (some position)
  | .enterActor _ => .ok ()
  | .setup _ _ _ => .ok ()
  | .settled => .ok ()
  | .returned _ _ => .ok ()

/-- Task `task` is answered `times` times. -/
def answered (task times : Nat) : List (LocationTurn (Option GnssFix)) :=
  List.replicate times (.resume task answers)

/-- The position is asked for, and the answer comes after the receiver was switched off. -/
def overtaken : List (LocationTurn (Option GnssFix)) :=
  .start .readFix :: answered 0 3 ++ .start .disable :: answered 1 6 ++ answered 0 2

theorem dark_fails : ¬ Dark (run adapter overtaken).shared := by decide

/-- Each call waits for the one before it. -/
def oneByOne : List (LocationTurn (Option GnssFix)) :=
  .start .readFix :: answered 0 5 ++ .start .disable :: answered 1 6

theorem dark_oneByOne : (run adapter oneByOne).shared.off = true ∧
    Dark (run adapter oneByOne).shared :=
  ⟨by decide, dark_run adapter oneByOne (by decide)⟩

end ModemManagerModuleOperations

end ModemStack.Providers
