import Mathlib.Data.Finset.Basic
import ModemStack.Domain.State
import ModemStack.Text.Number

/-!
The operator's desired policy for a modem.
-/

namespace ModemStack.Domain

open ModemStack.Text

inductive IpFamily where
  | ipv4
  | ipv6
  | ipv4v6
deriving DecidableEq

structure DesiredAuth where
  username : Option JsString
  password : Option JsString
deriving DecidableEq

structure DesiredConnection where
  apn : JsString
  ipFamily : IpFamily
  auth : Option DesiredAuth
  networkId : Option JsString
deriving DecidableEq

def DesiredConnection.isAuto (connection : DesiredConnection) : Bool := connection.apn = js "auto"

/-- `allowedSet` is a set of technologies, `preferenceOrdered` a ranked list. -/
structure DesiredRadio where
  preferenceOrdered : List RadioAccessTechnology
  allowedSet : Option (Finset RadioAccessTechnology)
deriving DecidableEq

structure DesiredUsage where
  cycleDay : Option Double
  thresholdBytes : Option Double
deriving DecidableEq

structure DesiredCellularPolicy where
  enabled : Bool
  connection : DesiredConnection
  roaming : Bool
  radio : DesiredRadio
  simSlot : Option Double
  recoveryEnabled : Bool
  usage : DesiredUsage
deriving DecidableEq

/-- Activation on, Auto-APN, dual-stack IP, roaming off, the newest technology preferred. -/
def defaultCellularPolicy : DesiredCellularPolicy where
  enabled := true
  connection := ⟨js "auto", .ipv4v6, none, none⟩
  roaming := false
  radio := ⟨[.nr, .lte, .umts, .gsm], none⟩
  simSlot := none
  recoveryEnabled := false
  usage := ⟨none, none⟩

end ModemStack.Domain
