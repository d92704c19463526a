import ModemStack.Data.OrderedMap
import ModemStack.Domain.State

/-!
The identity ladder: a stable key for a live modem from its slot label, its physical device
path, its ports or its equipment id, in this order.
-/

namespace ModemStack.Backend

open ModemStack.Data ModemStack.Domain ModemStack.Text

inductive SlotSource where
  | deviceSlotUid
  | physdev
  | sysfsWalk
  | equipmentFallback
deriving DecidableEq

def SLOT_UID_PREFIX : JsString := js "slot-"

structure ModemIdentityFacts where
  runtimePath : JsString
  device : Option JsString
  physdev : Option JsString
  ports : Option (List JsString)
  equipmentId : EquipmentId

structure ResolvedIdentity where
  identity : ModemIdentity
  slotSource : SlotSource
  confidence : IdentityConfidence
  stableKey : JsString
deriving DecidableEq

def looksLikeSlotUid (device : JsString) : Bool :=
  SLOT_UID_PREFIX.isPrefixOf device && SLOT_UID_PREFIX.length < device.length

def sysfsWalkKey (ports : List JsString) : Option JsString :=
  let named := (ports.map trim).filter (· ≠ [])
  if named = [] then none else some ((js "+").intercalate (named.mergeSort unitsLe))

def buildIdentity (facts : ModemIdentityFacts) (slot : Option JsString) :
    Except DomainError ModemIdentity := do
  let path ← runtimePath facts.runtimePath
  return ⟨slot, facts.equipmentId, none, none, path⟩

/-- The equipment value that identifies a modem: no provenance and blank values give none. -/
def equipmentValue : EquipmentId → Option JsString
  | .imei value _ => if trim value = [] then none else some value
  | .serial value _ => if trim value = [] then none else some value
  | .none => none

/-- A rung that names a slot. -/
def slotRung (facts : ModemIdentityFacts) (source : SlotSource) (confidence : IdentityConfidence)
    (name stableKey : JsString) : Except DomainError ResolvedIdentity := do
  let slot ← logicalSlotId name
  return ⟨← buildIdentity facts (some slot), source, confidence, stableKey⟩

def resolveModemIdentity (facts : ModemIdentityFacts) : Except DomainError ResolvedIdentity :=
  match facts.device.filter looksLikeSlotUid with
  | some device => slotRung facts .deviceSlotUid .high device (js "slot:" ++ device)
  | none =>
    match (facts.physdev.map trim).filter (· ≠ []) with
    | some physdev =>
      slotRung facts .physdev .high (js "physdev:" ++ physdev) (js "physdev:" ++ physdev)
    | none =>
      match facts.ports.bind sysfsWalkKey with
      | some walk => slotRung facts .sysfsWalk .medium (js "sysfs:" ++ walk) (js "sysfs:" ++ walk)
      | none => do
          let stableKey := match equipmentValue facts.equipmentId with
            | some value => js "equip:" ++ value
            | none => js "path:" ++ facts.runtimePath
          return ⟨← buildIdentity facts none, .equipmentFallback, .low, stableKey⟩

/-- How many modems of a batch carry each equipment value. -/
def equipmentCounts (factsList : List ModemIdentityFacts) : OrderedMap JsString Nat :=
  factsList.foldl (fun counts facts =>
    match equipmentValue facts.equipmentId with
    | some value => counts.set value ((counts.get value).getD 0 + 1)
    | none => counts) .empty

/-- The value of an equipment id that has a provenance. -/
def EquipmentId.value? : EquipmentId → Option JsString
  | .imei value _ => some value
  | .serial value _ => some value
  | .none => none

/-- A value that several modems of the batch carry is demoted before it is resolved. -/
def resolveModemIdentities (factsList : List ModemIdentityFacts) :
    Except DomainError (List ResolvedIdentity) :=
  let counts := equipmentCounts factsList
  factsList.mapM fun facts =>
    let duplicated := match EquipmentId.value? facts.equipmentId with
      | some value => decide (1 < (counts.get value).getD 0)
      | none => false
    resolveModemIdentity
      (if duplicated then { facts with equipmentId := demoteToLowConfidence facts.equipmentId }
        else facts)

end ModemStack.Backend
