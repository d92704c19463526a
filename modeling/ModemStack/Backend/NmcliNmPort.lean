import ModemStack.Async.EventLoop
import ModemStack.Backend.TransitionPorts
import ModemStack.Domain.Snapshot

/-!
The nmcli adapter's table of quiesce leases.

The table is a set of objects, not of values: two leases of one connection taken in
the same millisecond are two entries. A lease is told apart by the task that took it,
which takes one at most.
-/

namespace ModemStack.Backend

open ModemStack.Async ModemStack.Async.Program ModemStack.Domain ModemStack.Text

structure NmcliResult where
  stdout : JsString
  stderr : JsString
  exitCode : Int
deriving DecidableEq

/-- A lease object. -/
structure HeldLease where
  holder : Nat
  lease : QuiesceLease
deriving DecidableEq

/-- The runs of nmcli, by what the adapter makes them for. -/
inductive NmcliCall where
  | listActive
  | disconnect (deviceIfname : JsString)
  | up (connectionId deviceIfname : JsString)
  | reactivate (held : HeldLease)
deriving DecidableEq

@[reducible] def NmcliCall.Answer : NmcliCall → Type := fun _ => NmcliResult

/-- `#leases`, in the order of their acquisition, and what `#now` reads. -/
structure NmState where
  leases : List HeldLease
  clock : Int
deriving DecidableEq

abbrev NmTask (α : Type) : Type := Program NmState NmcliCall NmcliCall.Answer Failure α

/-- The connection that `connection show --active` lists on an interface. -/
def activeUuid (deviceIfname stdout : JsString) : Option JsString :=
  (stdout.splitOn 0x0A).findSome? fun line =>
    match line.splitOn colon with
    | uuid :: device :: _ => if device = deviceIfname ∧ uuid ≠ [] then some uuid else none
    | _ => none

def activeUuidOn (deviceIfname : JsString) : NmTask (Option JsString) := do
  let result : NmcliResult ← perform .listActive
  pure (activeUuid deviceIfname result.stdout)

def activationReceipt (result : NmcliResult) (appliedReason : JsString) : Receipt :=
  if result.exitCode = 0 then ⟨.applied, appliedReason⟩
  else ⟨.failed, if result.stderr = [] then js "nmcli returned a non-zero exit code"
    else result.stderr⟩

namespace NmcliNmPort

def activate (connectionId deviceIfname : JsString) : NmTask Receipt := do
  let result : NmcliResult ← perform (.up connectionId deviceIfname)
  pure (activationReceipt result
    (js "activated " ++ connectionId ++ js " on " ++ deviceIfname))

def deactivate (connectionId deviceIfname : JsString) : NmTask Receipt := do
  let active ← activeUuidOn deviceIfname
  if active = some connectionId then do
    let result : NmcliResult ← perform (.disconnect deviceIfname)
    pure (activationReceipt result
      (js "deactivated " ++ connectionId ++ js " on " ++ deviceIfname))
  else
    pure ⟨.applied, connectionId ++ js " not active on " ++ deviceIfname ++
      js "; nothing to deactivate"⟩

/-- `if ((await this.#activeUuidOn(ifname)) === id)` and its branch. -/
def quiesce (connectionId deviceIfname : JsString) : NmTask Unit := do
  let active ← activeUuidOn deviceIfname
  if active = some connectionId then do
    let _ ← perform (.disconnect deviceIfname)
  else pure ()

def acquireQuiesceLease (holder : Nat) (connectionId deviceIfname : JsString) :
    NmTask QuiesceLease := do
  quiesce connectionId deviceIfname
  let now := (← get).clock
  if 0 ≤ now ∧ now ≤ maxSafeInteger then do
    let lease : QuiesceLease := ⟨connectionId, deviceIfname, now⟩
    modify fun s => { s with leases := s.leases ++ [⟨holder, lease⟩] }
    pure lease
  else
    .fail (.other (js "epochMillis must be a non-negative safe integer, got " ++ printInt now))

/-- `this.#leases.delete(lease)` -/
def delete (held : HeldLease) : NmTask Unit :=
  modify fun s => { s with leases := s.leases.filter fun other => other ≠ held }

def releaseQuiesceLease (held : HeldLease) : NmTask Unit := do
  if held ∈ (← get).leases then do
    delete held
    let _ ← perform (.reactivate held)
  else pure ()

/-- The rest of a sweep, over the copy of the table it started with. -/
def sweepOver (leaseTtlMs now : Int) : List HeldLease → NmTask Unit
  | [] => pure ()
  | held :: rest =>
    if leaseTtlMs ≤ now - held.lease.acquiredAt then do
      delete held
      let _ ← perform (.reactivate held)
      sweepOver leaseTtlMs now rest
    else sweepOver leaseTtlMs now rest

/-- `now` defaults to the clock. -/
def sweepExpiredLeases (leaseTtlMs : Int) (now : Option Int) : NmTask Unit := do
  let s ← get
  sweepOver leaseTtlMs (now.getD s.clock) s.leases

end NmcliNmPort

end ModemStack.Backend
