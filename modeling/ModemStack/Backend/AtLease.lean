import ModemStack.Backend.TransitionPorts
import ModemStack.UsbMode.RuntimeCapability

/-!
The AT command lease: an allowlist, a watchdog and an audit around every send.
-/

namespace ModemStack.Backend

open ModemStack.Async ModemStack.Async.Program ModemStack.Text ModemStack.UsbMode

/-! ### The allowlist -/

def atRuntimeQueryAllowlist : List JsString :=
  RuntimeCompositionVendor.all.flatMap fun vendor =>
    let query := runtimeCompositionQueryRegistry vendor
    [query.current, query.enumerate]

/-- Identification and the reviewed queries. -/
def atBaselineAllowlist : List JsString := js "ATI" :: atRuntimeQueryAllowlist

def computeAtAllowlist (commands : List JsString) : List JsString :=
  atBaselineAllowlist ++ commands

/-! ### Running a command -/

/-- A held lease. `audited`: it was given an audit sink. -/
structure AtCommandLease where
  allowlist : List JsString
  timeoutMs : Nat
  audited : Bool
  onWatchdog : TransitionTask Unit

namespace AtCommandLease

def record (lease : AtCommandLease) (entry : AtAuditEntry) : TransitionTask Unit :=
  if lease.audited then ask (.record entry) else pure ()

def sendWithWatchdog (lease : AtCommandLease) (command : JsString) : TransitionTask AtResponse := do
  match ← (ask (.send command) : TransitionTask (Option AtResponse)) with
  | some response => pure response
  | none => .fail (.atCommandTimeout command lease.timeoutMs)

/-- Send one command. A sink that throws on the record of a sent command makes the
command an error, which is recorded again. -/
def run (lease : AtCommandLease) (command inhibitUid : JsString) : TransitionTask AtResponse :=
  if command ∉ lease.allowlist then do
    lease.record ⟨command, .rejected (js "not in allowlist"), inhibitUid⟩
    .fail (.atCommandNotAllowed command)
  else
    Program.catch (do
      let response ← lease.sendWithWatchdog command
      lease.record ⟨command, .sent response.ok, inhibitUid⟩
      pure response)
    fun error => do
      if error.timedOut then lease.onWatchdog
      lease.record ⟨command, if error.timedOut then .timeout error.message
        else .error error.message, inhibitUid⟩
      .fail error

end AtCommandLease

end ModemStack.Backend
