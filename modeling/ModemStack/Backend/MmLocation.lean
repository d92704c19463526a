import ModemStack.Async.EventLoop
import ModemStack.Backend.ManagedObjects
import ModemStack.Backend.TransitionPorts
import ModemStack.Domain.Snapshot
import ModemStack.Location.FixState

/-!
The `Modem.Location` adapter: which GNSS sources are on, and the current fix.

What `GetLocation` answers, and what is read in it, is left open.
-/

namespace ModemStack.Backend

open ModemStack.Async ModemStack.Async.Program ModemStack.Domain ModemStack.Location
open ModemStack.Text

def locationIface : JsString := js "org.freedesktop.ModemManager1.Modem.Location"

/-! ### Sources -/

/-- The sources, each with its bit. -/
def sourceBits : List (JsString × Nat) :=
  [(js "3gpp-lac-ci", 0), (js "gps-raw", 1), (js "gps-nmea", 2), (js "cdma-bs", 3),
    (js "gps-unmanaged", 4), (js "agps-msa", 5), (js "agps-msb", 6)]

def gnssSources : List JsString :=
  [js "gps-raw", js "gps-nmea", js "gps-unmanaged", js "agps-msa", js "agps-msb"]

/-- The bits of a number, as the bit operators take them. -/
def toUint32 (mask : Int) : Nat := (mask % 2 ^ 32).toNat

def decodeLocationSources (mask : Int) : List JsString :=
  (sourceBits.filter fun source => (toUint32 mask).testBit source.2).map Prod.fst

def sourceBit (source : JsString) : Nat :=
  ((sourceBits.find? fun entry => entry.1 = source).map fun entry => 2 ^ entry.2).getD 0

def encodeLocationSources (sources : List JsString) : Nat :=
  sources.foldl (fun mask source => mask ||| sourceBit source) 0

def gnssMask : Nat := encodeLocationSources gnssSources

def hasGnssSource (sources : List JsString) : Bool := sources.any fun source => source ∈ gnssSources

structure LocationStatus where
  capabilities : List JsString
  enabledSources : List JsString
  gnssCapable : Bool
  gnssEnabled : Bool

/-- Masks are integers on the wire. -/
def maskProp (props : DecodedProps) (name : JsString) : Int :=
  match numberProp (some props) name with
  | some (.integer value) => value
  | _ => 0

def statusOf (props : DecodedProps) : LocationStatus :=
  let capabilities := decodeLocationSources (maskProp props (js "Capabilities"))
  let enabledSources := decodeLocationSources (maskProp props (js "Enabled"))
  { capabilities
    enabledSources
    gnssCapable := hasGnssSource capabilities
    gnssEnabled := hasGnssSource enabledSources }

/-! ### Calls -/

inductive ToggleOutcome where
  | applied
  | unsupported
  | failed
deriving DecidableEq

structure LocationToggleResult where
  outcome : ToggleOutcome
  reason : JsString
  enabledSources : List JsString

def refusedToggle (reason : JsString) (enabled : List JsString) : LocationToggleResult :=
  ⟨.unsupported, reason, enabled⟩

/-- What the location functions await. `enterActor` is answered when the modem's queue comes to the
task; `readSnapshot` and `returned` are awaited by those that call the adapter. -/
inductive LocationCall where
  | readSnapshot
  | enterActor (stableKey : JsString)
  | getManagedObjects
  | setup (path : JsString) (mask : Nat) (signalLocation : Bool)
  | getLocation (path : JsString)
  | settled
  | returned (issued : Nat) (read : Except Failure FixRead)

/-- `ρ` is the type of what `GetLocation` answers. -/
@[reducible] def LocationCall.Answer (ρ : Type) : LocationCall → Type
  | .readSnapshot => Option JsString
  | .getManagedObjects => DecodedManagedObjects
  | .getLocation _ => ρ
  | _ => Unit

/-- A state with the clock that `now()` reads. -/
class HasClock (σ : Type) where
  clock : σ → Int

abbrev LocationTask (σ ρ α : Type) : Type :=
  Program σ LocationCall (LocationCall.Answer ρ) Failure α

/-- `epochMillis(now())` -/
def epochMillisNow {σ ρ : Type} [HasClock σ] : LocationTask σ ρ Int := do
  let now := HasClock.clock (← get)
  if 0 ≤ now ∧ now ≤ maxSafeInteger then pure now
  else .fail (.other (js "epochMillis must be a non-negative safe integer, got " ++ printInt now))

/-- The stable key of a modem, and the fix that an answer holds. -/
structure MmLocation (ρ : Type) where
  resolveStableKey : JsString → JsString
  decodeFix : ρ → Int → Option GnssFix

namespace MmLocation

variable {σ ρ : Type} [HasClock σ] (self : MmLocation ρ)

/-- Await a call and take its rejection as a value. -/
def callMethod (op : LocationCall) : LocationTask σ ρ (Except Failure (op.Answer ρ)) :=
  settle op

def readLocationProps (modem : JsString) : LocationTask σ ρ (Option DecodedProps) := do
  let tree ← callMethod .getManagedObjects
  match tree with
  | .ok tree => pure (findInterface tree modem locationIface)
  | .error _ => pure none

def setup (modem : JsString) (mask : Nat) (appliedReason : JsString) :
    LocationTask σ ρ LocationToggleResult := do
  let reply ← callMethod (.setup modem mask false)
  match reply with
  | .ok _ => pure ⟨.applied, appliedReason, decodeLocationSources mask⟩
  | .error error => pure ⟨.failed, js "Location.Setup failed: " ++ error.message, []⟩

def enableGnss (modem : JsString) (sources : List JsString) :
    LocationTask σ ρ LocationToggleResult := do
  let _ ← callMethod (.enterActor (self.resolveStableKey modem))
  match ← readLocationProps modem with
  | none => pure (refusedToggle (js "the modem does not expose a Location interface") [])
  | some props =>
    let status := statusOf props
    let requested := encodeLocationSources sources &&& encodeLocationSources status.capabilities
    if !status.gnssCapable then
      pure (refusedToggle (js "the modem advertises no GNSS source") status.enabledSources)
    else if requested = 0 then
      pure (refusedToggle
        (js "none of the requested GNSS sources is advertised by this modem")
        status.enabledSources)
    else
      setup modem (encodeLocationSources status.enabledSources ||| requested) (js "GNSS enabled")

def disableGnss (modem : JsString) : LocationTask σ ρ LocationToggleResult := do
  let _ ← callMethod (.enterActor (self.resolveStableKey modem))
  match ← readLocationProps modem with
  | none => pure (refusedToggle (js "the modem does not expose a Location interface") [])
  | some props =>
    let enabled := encodeLocationSources (statusOf props).enabledSources
    setup modem (enabled &&& (gnssMask ^^^ (2 ^ 32 - 1))) (js "GNSS disabled")

def readFix (modem : JsString) : LocationTask σ ρ FixRead := do
  match ← readLocationProps modem with
  | none => pure (.unsupported (js "the modem does not expose a Location interface"))
  | some props =>
    let status := statusOf props
    if !status.gnssCapable then
      pure (.unsupported (js "the modem advertises no GNSS source"))
    else if !status.gnssEnabled then
      pure (.disabled (js "GNSS is switched off on this modem"))
    else
      let reply ← callMethod (.getLocation modem)
      match reply with
      | .error error => pure (.error (js "GetLocation failed: " ++ error.message))
      | .ok reply =>
        let now ← epochMillisNow
        match self.decodeFix reply now with
        | some fix => pure (.fix fix)
        | none => pure (.noFix (js "the receiver has not acquired a position"))

end MmLocation

end ModemStack.Backend
