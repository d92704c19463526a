import ModemStack.Async.Drive
import ModemStack.Backend.DeviceClassifier
import ModemStack.Domain.State
import ModemStack.Text.Json

/-!
What a USB-mode transition calls: the interlock, NetworkManager, ModemManager, the
AT transport, the USB enumerator and the callbacks of its caller.
-/

namespace ModemStack.Backend

open ModemStack.Async ModemStack.Domain ModemStack.Text

/-! ### What is answered -/

/-- What a promise is rejected with. -/
inductive Failure where
  | atCommandNotAllowed (command : JsString)
  | atCommandTimeout (command : JsString) (timeoutMs : Nat)
  | other (message : JsString)
deriving DecidableEq

/-- `error instanceof Error ? error.message : String(error)`. -/
def Failure.message : Failure → JsString
  | .atCommandNotAllowed command => js "AT command not in allowlist: " ++ command
  | .atCommandTimeout command timeoutMs =>
    js "AT command timed out after " ++ printNat timeoutMs ++ js "ms: " ++ command
  | .other message => message

/-- `error instanceof AtCommandTimeoutError`. -/
def Failure.timedOut : Failure → Bool
  | .atCommandTimeout _ _ => true
  | _ => false

/-- An interlock's verdict. -/
inductive InterlockDecision where
  | allow
  | deny (reason : JsString)
deriving DecidableEq

/-- A held inhibition of ModemManager. -/
structure InhibitLease where
  uid : JsString
  acquiredAt : Nat
deriving DecidableEq

/-- A held deactivation of a connection. -/
structure QuiesceLease where
  connectionId : JsString
  deviceIfname : JsString
  acquiredAt : Int
deriving DecidableEq

inductive ReceiptStatus where
  | applied
  | pending
  | unsupported
  | failed
deriving DecidableEq

structure Receipt where
  status : ReceiptStatus
  reason : JsString
deriving DecidableEq

/-- The reply to an AT command. Its `ok` alone is never the success of a transition. -/
structure AtResponse where
  ok : Bool
  raw : JsString
deriving DecidableEq

inductive AtOutcome where
  | sent (ok : Bool)
  | rejected (reason : JsString)
  | timeout (reason : JsString)
  | error (reason : JsString)
deriving DecidableEq

/-- One audited attempt, before it is redacted. -/
structure AtAuditEntry where
  command : JsString
  outcome : AtOutcome
  inhibitUid : JsString
deriving DecidableEq

/-! ### The calls -/

inductive Call where
  | probeReadiness
  | canDisrupt (stableKey : JsString)
  /-- Waiting for the modem's actor. -/
  | enterActor (stableKey : JsString)
  | hold (stableKey : JsString)
  | releaseHold
  | acquireQuiesce (connectionId deviceIfname : JsString)
  | releaseQuiesce (lease : QuiesceLease)
  | inhibit (uid : JsString)
  | uninhibit (lease : InhibitLease)
  /-- The sender raced against the watchdog. -/
  | send (command : JsString)
  | record (entry : AtAuditEntry)
  | enumerate
  | sleep
  | resolveIfname (device : UsbDeviceSnapshot)
  | activate (connectionId deviceIfname : JsString)
deriving DecidableEq

/-- What each call resolves with. A `send` answers nothing when the watchdog is first. -/
@[reducible] def Call.Answer : Call → Type
  | .probeReadiness => IdentityConfidence
  | .canDisrupt _ => InterlockDecision
  | .enterActor _ => Unit
  | .hold _ => Unit
  | .releaseHold => Unit
  | .acquireQuiesce _ _ => QuiesceLease
  | .releaseQuiesce _ => Unit
  | .inhibit _ => InhibitLease
  | .uninhibit _ => Unit
  | .send _ => Option AtResponse
  | .record _ => Unit
  | .enumerate => List UsbDeviceSnapshot
  | .sleep => Unit
  | .resolveIfname _ => Option JsString
  | .activate _ _ => Receipt

/-- The variables of one transition: its step log, the inhibition it holds and
whether it has activated the new interface. -/
structure Locals where
  steps : List JsString
  inhibit : Option InhibitLease
  reactivated : Bool
deriving DecidableEq

def Locals.start : Locals := ⟨[], none, false⟩

abbrev TransitionTask (α : Type) : Type := Program Locals Call Call.Answer Failure α

/-- Make a call and await its answer. -/
def ask (op : Call) : TransitionTask op.Answer := Program.perform op

/-- Make a call and go on whether it is rejected or not. -/
def attempt (op : Call) : TransitionTask Unit := Program.yield op

abbrev TransitionEvent : Type := Event Locals Call Call.Answer Failure

end ModemStack.Backend
